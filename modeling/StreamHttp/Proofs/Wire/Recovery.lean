import StreamHttp.Proofs.Serve.Receive

/-!
Where reading goes on behind a head that is too large. A head ends at a blank line, which is empty
or one carriage return. The rest of a head that is too large is skipped to the first line of nothing
but carriage returns, however many: that is the same place unless a line of two or more of them
stands between the end of the room and the blank line.
-/

namespace StreamHttp.Decoder

/-- The line that is open at the end of some bytes. -/
def openLine (bytes : Bytes) : Bytes := (bytes.reverse.takeWhile (· != Byte.lf)).reverse

/-- A line that ends a head. -/
def isBlankLine (line : Bytes) : Bool := line.isEmpty || line == [Byte.cr]

/-- A line that ends the skipping of a head. -/
def isReturns (line : Bytes) : Bool := line.all (· == Byte.cr)

/-- A line of more carriage returns than a blank line has. -/
def isStrayReturns (line : Bytes) : Bool := isReturns line && !isBlankLine line

def endsLine (kind : Bytes → Bool) (text : Bytes) (place : Nat) : Bool :=
  text[place]? == some Byte.lf && kind (openLine (text.take place))

/-- The place behind the first line of some kind whose line feed is not in front of the start. -/
def behindLine? (kind : Bytes → Bool) (text : Bytes) (start : Nat) : Option Nat :=
  ((List.range' start (text.length - start)).find? (endsLine kind text)).map (· + 1)

def headEnd? (text : Bytes) : Option Nat := behindLine? isBlankLine text 0

section

variable {kind narrow wide : Bytes → Bool} {text : Bytes} {start place : Nat}

theorem behind_line_some_iff :
    behindLine? kind text start = some place ↔
      ∃ feed, place = feed + 1 ∧ start ≤ feed ∧ feed < text.length ∧
        endsLine kind text feed = true ∧
        ∀ earlier, start ≤ earlier → earlier < feed → endsLine kind text earlier = false := by
  simp only [behindLine?, Option.map_eq_some_iff, List.find?_range'_eq_some, List.mem_range'_1,
    Bool.not_eq_eq_eq_not, Bool.not_true]
  constructor
  · rintro ⟨feed, ⟨ends, ⟨low, high⟩, first⟩, rfl⟩
    exact ⟨feed, rfl, low, by omega, ends, first⟩
  · rintro ⟨feed, rfl, low, high, ends, first⟩
    exact ⟨feed, ⟨ends, ⟨low, by omega⟩, first⟩, rfl⟩

theorem behind_line_none_iff :
    behindLine? kind text start = none ↔
      ∀ feed, start ≤ feed → endsLine kind text feed = false := by
  simp only [behindLine?, Option.map_eq_none_iff, List.find?_range'_eq_none,
    Bool.not_eq_eq_eq_not, Bool.not_true]
  constructor
  · intro none feed low
    by_cases high : feed < text.length
    · exact none feed low (by omega)
    · have past : text[feed]? = .none := List.getElem?_eq_none (Nat.le_of_not_lt high)
      simp [endsLine, past]
  · exact fun none feed low _ => none feed low

theorem behind_line_next (inside : start < text.length) :
    behindLine? kind text start =
      if endsLine kind text start then some (start + 1) else behindLine? kind text (start + 1) := by
  have length : text.length - start = text.length - (start + 1) + 1 := by omega
  simp only [behindLine?, length, List.range'_succ, List.find?_cons]
  split <;> simp_all

theorem behind_line_before {feed : Nat} (low : start ≤ feed)
    (high : feed + 1 < (behindLine? kind text start).getD text.length) :
    endsLine kind text feed = false := by
  cases found : behindLine? kind text start with
  | none => exact behind_line_none_iff.1 found feed low
  | some place =>
      obtain ⟨last, rfl, _, _, _, first⟩ := behind_line_some_iff.1 found
      rw [found, Option.getD_some] at high
      exact first feed low (by omega)

/-- What is found in front of the end stands behind a line of the kind. -/
theorem behind_line_at (short : (behindLine? kind text start).getD text.length < text.length) :
    ∃ feed, start ≤ feed ∧ (behindLine? kind text start).getD text.length = feed + 1 ∧
      endsLine kind text feed = true := by
  cases found : behindLine? kind text start with
  | none =>
      rw [found, Option.getD_none] at short
      exact absurd short (Nat.lt_irrefl _)
  | some place =>
      obtain ⟨feed, rfl, low, _, ends, _⟩ := behind_line_some_iff.1 found
      exact ⟨feed, low, rfl, ends⟩

theorem behind_line_inside : (behindLine? kind text start).getD text.length ≤ text.length := by
  cases found : behindLine? kind text start with
  | none => exact Nat.le_refl _
  | some place =>
      obtain ⟨feed, rfl, _, high, _, _⟩ := behind_line_some_iff.1 found
      exact high

/-- Two kinds of lines, one of them within the other, are found first at the same place unless a line
of the wider kind alone comes before. -/
theorem behind_line_agree (within : ∀ line, narrow line = true → wide line = true) :
    (behindLine? wide text start).getD text.length =
        (behindLine? narrow text start).getD text.length ↔
      ∀ feed, start ≤ feed → feed + 1 < (behindLine? narrow text start).getD text.length →
        endsLine (fun line => wide line && !narrow line) text feed = false := by
  have parted (feed : Nat) : endsLine (fun line => wide line && !narrow line) text feed =
      (endsLine wide text feed && !endsLine narrow text feed) := by
    simp only [endsLine]
    cases text[feed]? == some Byte.lf <;> simp
  constructor
  · intro same feed low high
    rw [← same] at high
    rw [parted, behind_line_before low high, Bool.false_and]
  · intro none
    have insideWide : (behindLine? wide text start).getD text.length ≤ text.length :=
      behind_line_inside
    have insideNarrow : (behindLine? narrow text start).getD text.length ≤ text.length :=
      behind_line_inside
    apply Nat.le_antisymm
    · refine Nat.le_of_not_lt fun later => ?_
      obtain ⟨feed, low, found, ends⟩ := behind_line_at (Nat.lt_of_lt_of_le later insideWide)
      have open_ := behind_line_before low (by rw [← found]; exact later)
      simp only [endsLine, Bool.and_eq_true] at ends
      rw [endsLine, ends.1, Bool.true_and, within _ ends.2] at open_
      cases open_
    · refine Nat.le_of_not_lt fun later => ?_
      obtain ⟨feed, low, found, ends⟩ := behind_line_at (Nat.lt_of_lt_of_le later insideNarrow)
      have open_ := behind_line_before low (by rw [← found]; exact later)
      have stray := none feed low (by omega)
      rw [parted, ends, open_] at stray
      cases stray

theorem behind_line_last (outside : text.length ≤ start) : behindLine? kind text start = none := by
  simp only [behindLine?, Nat.sub_eq_zero_of_le outside, List.range'_zero, List.find?_nil,
    Option.map_none]

end

theorem ends_line_here (kind : Bytes → Bool) (done : Bytes) (byte : Byte) (rest : Bytes) :
    endsLine kind (done ++ byte :: rest) done.length = (byte == Byte.lf && kind (openLine done)) := by
  simp [endsLine]

theorem behind_line_cons (kind : Bytes → Bool) (done : Bytes) (byte : Byte) (rest : Bytes) :
    behindLine? kind (done ++ byte :: rest) done.length =
      if byte == Byte.lf && kind (openLine done) then some (done.length + 1)
      else behindLine? kind (done ++ [byte] ++ rest) (done ++ [byte]).length := by
  have inside : done.length < (done ++ byte :: rest).length := by simp
  rw [behind_line_next inside, ends_line_here]
  simp only [List.append_assoc, List.cons_append, List.nil_append, List.length_append,
    List.length_cons, List.length_nil]

theorem open_line_feed (done : Bytes) : openLine (done ++ [Byte.lf]) = [] := by
  simp [openLine]

theorem open_line_other (done : Bytes) {byte : Byte} (other : (byte == Byte.lf) = false) :
    openLine (done ++ [byte]) = openLine done ++ [byte] := by
  have open_ : (byte != Byte.lf) = true := by simp [bne, other]
  simp [openLine, open_]

def HeadPart.Reads (part : HeadPart) : Prop := openLine part.bytes = part.line.reverse

theorem HeadPart.reads_feed (part : HeadPart) :
    HeadPart.Reads ⟨Byte.lf :: (part.line ++ part.lines), []⟩ ∧
      HeadPart.bytes ⟨Byte.lf :: (part.line ++ part.lines), []⟩ = part.bytes ++ [Byte.lf] := by
  have bytes : HeadPart.bytes ⟨Byte.lf :: (part.line ++ part.lines), []⟩ = part.bytes ++ [Byte.lf] := by
    simp [HeadPart.bytes]
  refine ⟨?_, bytes⟩
  rw [HeadPart.Reads, bytes, open_line_feed]
  rfl

theorem HeadPart.Reads.reads_other {part : HeadPart} (reads : part.Reads) {byte : Byte}
    (other : (byte == Byte.lf) = false) :
    HeadPart.Reads { part with line := byte :: part.line } ∧
      HeadPart.bytes { part with line := byte :: part.line } = part.bytes ++ [byte] := by
  have bytes : HeadPart.bytes { part with line := byte :: part.line } = part.bytes ++ [byte] := by
    simp [HeadPart.bytes]
  refine ⟨?_, bytes⟩
  rw [HeadPart.Reads, bytes, open_line_other _ other, reads]
  simp

theorem HeadPart.Reads.blank_line {part : HeadPart} (reads : part.Reads) :
    isBlankLine (openLine part.bytes) = (part.line.isEmpty || part.line == [Byte.cr]) := by
  rw [reads, isBlankLine, List.isEmpty_reverse]
  congr 1
  rw [Bool.eq_iff_iff, beq_iff_eq, beq_iff_eq, List.reverse_eq_iff]
  rfl

theorem extend_end {part : HeadPart} (reads : part.Reads) (input more : Bytes) :
    match part.extend input with
    | .ok (lines, rest) =>
        ∃ line, isBlankLine line = true ∧ part.bytes ++ input = lines ++ line ++ Byte.lf :: rest ∧
          behindLine? isBlankLine (part.bytes ++ input ++ more) part.bytes.length =
            some (lines ++ line ++ [Byte.lf]).length
    | .error longer =>
        longer.Reads ∧
          behindLine? isBlankLine (part.bytes ++ input ++ more) part.bytes.length =
            behindLine? isBlankLine (longer.bytes ++ more) longer.bytes.length := by
  induction input generalizing part with
  | nil => simpa [HeadPart.extend] using reads
  | cons byte rest induction =>
      rw [List.append_assoc, List.cons_append, behind_line_cons, reads.blank_line]
      unfold HeadPart.extend
      cases feed : byte == Byte.lf with
      | true =>
          have lf : byte = Byte.lf := by simpa using feed
          subst lf
          cases blank : part.line.isEmpty || part.line == [Byte.cr] with
          | true =>
              have line : isBlankLine part.line.reverse = true := by
                rw [← reads, reads.blank_line, blank]
              simp only [Bool.and_self, if_true]
              refine ⟨part.line.reverse, line, by simp [HeadPart.bytes], ?_⟩
              simp only [HeadPart.bytes, List.reverse_append, List.length_append,
                List.length_cons, List.length_nil]
          | false =>
              have further := induction part.reads_feed.1
              simp only [part.reads_feed.2] at further
              simpa using further
      | false =>
          have further := induction (reads.reads_other feed).1
          simp only [(reads.reads_other feed).2] at further
          simpa using further

theorem is_returns_count (line : Bytes) :
    isReturns line = (line.countP (· != Byte.cr) == 0) := by
  rw [Bool.eq_iff_iff, beq_iff_eq, List.countP_eq_zero, isReturns, List.all_eq_true]
  simp

/-- Skipping ends behind the first line of carriage returns alone. -/
theorem scan_head_end_end (done input : Bytes) :
    match scanHeadEnd ((openLine done).countP (· != Byte.cr)) input with
    | .ok rest =>
        ∃ front, done ++ input = front ++ rest ∧
          behindLine? isReturns (done ++ input) done.length = some front.length
    | .error _ => behindLine? isReturns (done ++ input) done.length = none := by
  induction input generalizing done with
  | nil => exact behind_line_last (by simp)
  | cons byte rest induction =>
      have further := induction (done ++ [byte])
      rw [behind_line_cons, is_returns_count, scanHeadEnd]
      cases feed : byte == Byte.lf with
      | true =>
          have lf : byte = Byte.lf := by simpa using feed
          subst lf
          rw [open_line_feed] at further
          cases blank : (openLine done).countP (· != Byte.cr) == 0 with
          | true =>
              simp only [Bool.and_self, if_true]
              exact ⟨done ++ [Byte.lf], by simp, by simp⟩
          | false => simpa using further
      | false =>
          rw [open_line_other done feed, List.countP_append] at further
          cases returned : byte == Byte.cr with
          | true =>
              have cr : byte = Byte.cr := by simpa using returned
              subst cr
              simpa using further
          | false =>
              have other : (byte != Byte.cr) = true := by simp [bne, returned]
              simpa [List.countP_cons, other] using further

theorem skip_blank_lines_take (content : Bytes) {size : Nat} (roomy : 1 ≤ size) :
    skipBlankLines ((skipBlankLines content).take size) = (skipBlankLines content).take size := by
  cases whole : skipBlankLines content with
  | nil => rw [List.take_nil]; rfl
  | cons byte rest =>
      have kept := List.head?_dropWhile_not isLineEnd content
      have front : content.dropWhile isLineEnd = byte :: rest := whole
      rw [front] at kept
      obtain ⟨room, rfl⟩ : ∃ room, size = room + 1 := ⟨size - 1, by omega⟩
      rw [List.take_succ_cons]
      refine List.dropWhile_cons_of_neg ?_
      simpa [isLineEnd] using kept

/-- A text is a head that fits, ends before, or is skipped from the end of the room on. -/
theorem scan_text {size : Nat} (roomy : 1 ≤ size) (content : Bytes) :
    scan size {} content =
      match HeadPart.extend {} ((skipBlankLines content).take size) with
      | .ok (lines, left) => .head lines (left ++ (skipBlankLines content).drop size)
      | .error longer =>
          if (skipBlankLines content).length < size then .unfinished longer
          else .ofSkipped (scanHeadEnd longer.lineLength ((skipBlankLines content).drop size)) := by
  have split : content = content.takeWhile isLineEnd ++ skipBlankLines content :=
    List.takeWhile_append_dropWhile.symm
  have blank : ∀ byte ∈ content.takeWhile isLineEnd, isLineEnd byte = true :=
    List.all_eq_true.1 List.all_takeWhile
  have room : size ≠ 0 := by omega
  have solid := skip_blank_lines_take content roomy
  have skipped : scan size {} content = scan size {} (skipBlankLines content) := by
    exact (congrArg (scan size {}) split).trans (scan_blanks room blank _)
  rw [skipped]
  generalize skipBlankLines content = text at solid ⊢
  have whole := scan_read {} (text.take size) (text.drop size) (List.length_take_le _ _) room
  have counted : HeadPart.counted {} (text.take size) = text.take size := solid
  rw [List.take_append_drop, counted] at whole
  rw [whole]
  cases HeadPart.extend {} (text.take size) with
  | ok found => rfl
  | error longer =>
      simp only [List.length_take]
      split
      next short =>
        have left : (size - min size text.length == 0) = false := by
          simp only [beq_eq_false_iff_ne]
          omega
        rw [List.drop_eq_nil_of_le (Nat.le_of_lt short), scan, left, if_neg Bool.false_ne_true]
      next full =>
        rw [Nat.min_eq_left (Nat.le_of_not_lt full), Nat.sub_self, scan_full]

theorem head_end_take (text : Bytes) (size : Nat) :
    match HeadPart.extend {} (text.take size) with
    | .ok (lines, left) =>
        ∃ line, isBlankLine line = true ∧ text.take size = lines ++ line ++ Byte.lf :: left ∧
          headEnd? text = some (lines ++ line ++ [Byte.lf]).length
    | .error longer =>
        longer.Reads ∧ longer.bytes = text.take size ∧
          headEnd? text = behindLine? isBlankLine text (text.take size).length := by
  have reads : HeadPart.Reads {} := rfl
  have found := extend_end reads (text.take size) (text.drop size)
  have empty : HeadPart.bytes {} = [] := rfl
  simp only [empty, List.nil_append, List.length_nil, List.take_append_drop] at found
  cases extended : HeadPart.extend {} (text.take size) with
  | ok pair =>
      rw [extended] at found
      exact found
  | error longer =>
      have bytes : longer.bytes = text.take size := HeadPart.bytes_extend extended
      rw [extended] at found
      simp only [bytes, List.take_append_drop] at found
      exact ⟨found.1, bytes, found.2⟩

section

variable {size : Nat} {content : Bytes}

theorem scan_fitting (roomy : 1 ≤ size) {place : Nat}
    (ended : headEnd? (skipBlankLines content) = some place) (fits : place ≤ size) :
    ∃ lines line, isBlankLine line = true ∧
      (skipBlankLines content).take place = lines ++ line ++ [Byte.lf] ∧
      scan size {} content = .head lines ((skipBlankLines content).drop place) := by
  have scanned := scan_text roomy content
  have found := head_end_take (skipBlankLines content) size
  generalize skipBlankLines content = text at scanned found ended ⊢
  cases extended : HeadPart.extend {} (text.take size) with
  | ok pair =>
      obtain ⟨lines, left⟩ := pair
      rw [extended] at scanned found
      obtain ⟨line, blank, taken, same⟩ := found
      have whole : text = (lines ++ line ++ [Byte.lf]) ++ (left ++ text.drop size) := by
        refine (List.take_append_drop size text).symm.trans ?_
        rw [taken]
        simp
      obtain rfl := Option.some.inj (ended.symm.trans same)
      refine ⟨lines, line, blank, ?_, scanned.trans ?_⟩
      · rw [whole, List.take_left]
      · generalize text.drop size = behind at whole ⊢
        rw [whole, List.drop_left]
  | error longer =>
      rw [extended] at found
      obtain ⟨_, _, same⟩ := found
      obtain ⟨feed, rfl, low, high, _⟩ := behind_line_some_iff.1 (same.symm.trans ended)
      rw [List.length_take] at low
      omega

theorem scan_exceeding (roomy : 1 ≤ size) (full : size ≤ (skipBlankLines content).length)
    (exceeds : ∀ place, headEnd? (skipBlankLines content) = some place → size < place) :
    headEnd? (skipBlankLines content) = behindLine? isBlankLine (skipBlankLines content) size ∧
      scan size {} content =
        match behindLine? isReturns (skipBlankLines content) size with
        | some place => .tooLong ((skipBlankLines content).drop place)
        | none => .endless := by
  have scanned := scan_text roomy content
  have found := head_end_take (skipBlankLines content) size
  generalize skipBlankLines content = text at scanned found exceeds full ⊢
  have taken : (text.take size).length = size := List.length_take_of_le full
  cases extended : HeadPart.extend {} (text.take size) with
  | ok pair =>
      obtain ⟨lines, left⟩ := pair
      rw [extended] at found
      obtain ⟨line, _, whole, same⟩ := found
      have within := exceeds _ same
      rw [whole] at taken
      simp only [List.length_append, List.length_cons, List.length_nil] at taken within
      omega
  | error longer =>
      rw [extended] at found scanned
      obtain ⟨reads, bytes, same⟩ := found
      have skipped := scan_head_end_end (text.take size) (text.drop size)
      have unfinished : longer.lineLength = (openLine (text.take size)).countP (· != Byte.cr) := by
        rw [← bytes, reads, List.countP_reverse, HeadPart.lineLength]
      rw [taken] at same
      rw [List.take_append_drop, taken, ← unfinished] at skipped
      simp only [Nat.not_lt.2 full, if_false] at scanned
      refine ⟨same, scanned.trans ?_⟩
      cases ending : scanHeadEnd longer.lineLength (text.drop size) with
      | ok rest =>
          rw [ending] at skipped
          obtain ⟨front, whole, found⟩ := skipped
          rw [found]
          simp only [Scan.ofSkipped]
          rw [whole, List.drop_left]
      | error length =>
          rw [ending] at skipped
          rw [skipped]
          rfl

end

theorem blank_line_returns (line : Bytes) (blank : isBlankLine line = true) :
    isReturns line = true := by
  rcases Bool.or_eq_true_iff.1 blank with empty | returned
  · rw [List.isEmpty_iff.1 empty]
    rfl
  · rw [beq_iff_eq.1 returned]
    rfl

/-- Places in a text are told apart by what is left behind them. -/
theorem drop_same_iff {text : Bytes} {first second : Nat} (one : first ≤ text.length)
    (other : second ≤ text.length) : text.drop first = text.drop second ↔ first = second := by
  constructor
  · intro dropped
    have lengths := congrArg List.length dropped
    simp only [List.length_drop] at lengths
    omega
  · exact fun equal => by rw [equal]

section

variable {size : Nat} {session : Session}

theorem decode_content (size : Nat) (unfailing : session.delivery.failure = none) :
    ((decode size session).1, (decode size session).2.delivery) =
      decodeStore size ⟨session.content, none⟩ := by
  have stored : session.delivery = ⟨session.content, none⟩ := by
    rw [← unfailing]
    rfl
  rw [← stored]
  exact decode_store size session

theorem decode_fitting (roomy : 1 ≤ size) (unfailing : session.delivery.failure = none)
    {place : Nat} (ended : headEnd? (skipBlankLines session.content) = some place)
    (fits : place ≤ size) :
    (decode size session).2.content = (skipBlankLines session.content).drop place ∧
      ∃ lines line, isBlankLine line = true ∧
        (skipBlankLines session.content).take place = lines ++ line ++ [Byte.lf] ∧
        (decode size session).1 = (ofHead lines).map some := by
  have decoded := decode_content size unfailing
  obtain ⟨lines, line, blank, taken, scanned⟩ := scan_fitting roomy ended fits
  simp only [decodeStore, scanned, Scan.result, Prod.mk.injEq] at decoded
  exact ⟨congrArg Delivery.bytes decoded.2, lines, line, blank, taken, decoded.1⟩

theorem decode_exceeding (roomy : 1 ≤ size) (unfailing : session.delivery.failure = none)
    (full : size ≤ (skipBlankLines session.content).length)
    (exceeds : ∀ place, headEnd? (skipBlankLines session.content) = some place → size < place) :
    let text := skipBlankLines session.content
    (decode size session).1 = .error (.headerTooLarge size) ∧
      (decode size session).2.content =
        text.drop ((behindLine? isReturns text size).getD text.length) := by
  intro text
  have decoded := decode_content size unfailing
  simp only [decodeStore, (scan_exceeding roomy full exceeds).2] at decoded
  cases skipped : behindLine? isReturns text size with
  | some place =>
      rw [skipped] at decoded
      simp only [Scan.result, Prod.mk.injEq] at decoded
      exact ⟨decoded.1, congrArg Delivery.bytes decoded.2⟩
  | none =>
      rw [skipped] at decoded
      simp only [Scan.result, Prod.mk.injEq] at decoded
      rw [Option.getD_none, List.drop_length]
      exact ⟨decoded.1, congrArg Delivery.bytes decoded.2⟩

end

/-- A head whose blank line stands within the room leaves the input behind that line. One whose
blank line does not is too large, and leaves the input behind the first line of carriage returns
alone that ends behind the room: behind the blank line, as with more room, exactly when no line of
two or more carriage returns ends between. -/
theorem oversized_head_resumes {size : Nat} (roomy : 1 ≤ size) {session : Session}
    (unfailing : session.delivery.failure = none) :
    let text := skipBlankLines session.content
    (∀ place, headEnd? text = some place → place ≤ size →
      (decode size session).2.content = text.drop place ∧
      ∃ lines line, isBlankLine line = true ∧ text.take place = lines ++ line ++ [Byte.lf] ∧
        (decode size session).1 = (ofHead lines).map some) ∧
    (size ≤ text.length → (∀ place, headEnd? text = some place → size < place) →
      (decode size session).1 = .error (.headerTooLarge size) ∧
      (decode size session).2.content =
        text.drop ((behindLine? isReturns text size).getD text.length) ∧
      ((decode size session).2.content = text.drop ((headEnd? text).getD text.length) ↔
        ∀ feed, size ≤ feed → feed + 1 < (headEnd? text).getD text.length →
          endsLine isStrayReturns text feed = false)) := by
  intro text
  refine ⟨fun place ended fits => decode_fitting roomy unfailing ended fits, ?_⟩
  intro full exceeds
  obtain ⟨refused, left⟩ := decode_exceeding roomy unfailing full exceeds
  refine ⟨refused, left, ?_⟩
  rw [left, (scan_exceeding roomy full exceeds).1,
    drop_same_iff behind_line_inside behind_line_inside]
  exact behind_line_agree blank_line_returns

def cutSession (text : String) (place : Nat) : Session :=
  let bytes := Bytes.ofString text
  Session.ofSource (Source.ofParts [bytes.take place, bytes.drop place] none)

/-- The room and the first read end between the two bytes of the blank line. -/
theorem oversized_head_resumes_cut :
    let session := cutSession "GET /a HTTP/1.1\r\nA: 1\r\n\r\nGET /c HTTP/1.1\r\n\r\n" 24
    1 ≤ 24 ∧ session.delivery.failure = none ∧
      (decode 24 session).1 = .error (.headerTooLarge 24) ∧
      (decode 24 session).2.content = Bytes.ofString "GET /c HTTP/1.1\r\n\r\n" := by
  intro session
  have ended : headEnd? (skipBlankLines session.content) = some 25 := by decide
  have unfailing : session.delivery.failure = none := rfl
  have resumed := (oversized_head_resumes (by decide : 1 ≤ 24) unfailing).2 (by decide) (by
    intro place found
    rw [ended] at found
    obtain rfl := Option.some.inj found
    decide)
  refine ⟨by decide, unfailing, resumed.1, (resumed.2.2.2 ?_).trans ?_⟩
  · intro feed low high
    rw [ended, Option.getD_some] at high
    omega
  · rw [ended]
    decide

/-- Two carriage returns are a line of the head, where there is room for them, and the end of a head
that is skipped: what stands behind them is read as a request. -/
theorem stray_returns_end_skipping :
    let session := cutSession
      "GET /a HTTP/1.1\r\nA: 1\r\n\r\r\nGET /b HTTP/1.1\r\n\r\nGET /c HTTP/1.1\r\n\r\n" 30
    session.delivery.failure = none ∧
      headEnd? (skipBlankLines session.content) = some 45 ∧
      (decode 24 session).1 = .error (.headerTooLarge 24) ∧
      (decode 24 session).2.content =
        Bytes.ofString "GET /b HTTP/1.1\r\n\r\nGET /c HTTP/1.1\r\n\r\n" ∧
      (decode 8192 session).2.content = Bytes.ofString "GET /c HTTP/1.1\r\n\r\n" ∧
      (skipBlankLines session.content).drop 45 = Bytes.ofString "GET /c HTTP/1.1\r\n\r\n" := by
  intro session
  have scanned : scan 24 {} session.content =
      .tooLong (Bytes.ofString "GET /b HTTP/1.1\r\n\r\nGET /c HTTP/1.1\r\n\r\n") := by
    decide
  have small := decode_store 24 session
  have large := decode_store 8192 session
  have stored : session.delivery = ⟨session.content, none⟩ := rfl
  have exceeded := small.trans (by rw [stored, decodeStore, scanned, Scan.result])
  rw [Prod.ext_iff] at exceeded large
  refine ⟨rfl, by decide, exceeded.1, congrArg Delivery.bytes exceeded.2,
    (congrArg Delivery.bytes large.2).trans ?_, by decide⟩
  decide

end StreamHttp.Decoder
