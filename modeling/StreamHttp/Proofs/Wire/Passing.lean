import StreamHttp.Proofs.Wire.Recovery

/-!
What a decoder passes of its input. Whether a head was found, was too large, or did not end, the
bytes that are gone are the line ends in front of it, the bytes that there was room for, and those
that were skipped behind them; everything else is still there.
-/

namespace StreamHttp.Decoder

/-- Line ends, and behind them something that does not begin with one. -/
structure Fronted (blanks part : Bytes) : Prop where
  blank : ∀ byte ∈ blanks, isLineEnd byte = true
  solid : ∀ byte ∈ part.head?, isLineEnd byte = false

/-- How the bytes that a scan with room for a head of some size has passed are made up. -/
def Scan.Splits (size : Nat) (content : Bytes) : Scan → Prop
  | .head lines rest =>
      ∃ blanks ending, content = blanks ++ (lines ++ ending) ++ rest ∧
        Fronted blanks (lines ++ ending) ∧ (lines ++ ending).length ≤ size ∧
        (ending = [Byte.lf] ∨ ending = [Byte.cr, Byte.lf])
  | .tooLong rest =>
      ∃ blanks part skipped, content = blanks ++ part ++ skipped ++ rest ∧
        Fronted blanks part ∧ part.length = size
  | .endless =>
      ∃ blanks part skipped, content = blanks ++ part ++ skipped ∧
        Fronted blanks part ∧ part.length = size
  | .unfinished part =>
      ∃ blanks, content = blanks ++ part.bytes ∧ Fronted blanks part.bytes ∧
        part.bytes.length < size

theorem blank_line_ending {line : Bytes} (blank : isBlankLine line = true) :
    line ++ [Byte.lf] = [Byte.lf] ∨ line ++ [Byte.lf] = [Byte.cr, Byte.lf] := by
  rcases Bool.or_eq_true_iff.1 blank with empty | returned
  · rw [List.isEmpty_iff.1 empty]
    exact .inl rfl
  · rw [beq_iff_eq.1 returned]
    exact .inr rfl

theorem fronted_text (content : Bytes) :
    content = content.takeWhile isLineEnd ++ skipBlankLines content ∧
      Fronted (content.takeWhile isLineEnd) (skipBlankLines content) := by
  refine ⟨List.takeWhile_append_dropWhile.symm, List.all_eq_true.1 List.all_takeWhile, ?_⟩
  intro byte first
  have kept := List.head?_dropWhile_not isLineEnd content
  have same : (content.dropWhile isLineEnd).head? = some byte := first
  rw [same] at kept
  simpa using kept

theorem Fronted.of_append {blanks front rest : Bytes} (fronted : Fronted blanks (front ++ rest)) :
    Fronted blanks front := by
  refine ⟨fronted.blank, fun byte first => fronted.solid byte ?_⟩
  rw [List.head?_append, first]
  rfl

theorem skipped_splits {size length : Nat} {content blanks part rest : Bytes}
    (whole : content = blanks ++ part ++ rest) (fronted : Fronted blanks part)
    (full : part.length = size) :
    (Scan.ofSkipped (scanHeadEnd length rest)).Splits size content := by
  cases found : scanHeadEnd length rest with
  | ok left =>
      obtain ⟨skipped, _, split⟩ := scan_head_end_split found
      rw [split, ← List.append_assoc] at whole
      exact ⟨blanks, part, skipped, whole, fronted, full⟩
  | error _ => exact ⟨blanks, part, rest, whole, fronted, full⟩

theorem head_splits {size : Nat} {blanks text lines line left : Bytes}
    (fronted : Fronted blanks text) (ended : isBlankLine line = true)
    (taken : text.take size = lines ++ line ++ Byte.lf :: left) :
    (Scan.head lines (left ++ text.drop size)).Splits size (blanks ++ text) := by
  have front : text.take size = lines ++ (line ++ [Byte.lf]) ++ left := by
    rw [taken]
    simp
  have whole : text = lines ++ (line ++ [Byte.lf]) ++ (left ++ text.drop size) := by
    rw [← List.append_assoc, ← front, List.take_append_drop]
  have fits : (lines ++ (line ++ [Byte.lf])).length ≤ size := by
    refine Nat.le_trans (Nat.le_add_right _ left.length) ?_
    rw [← List.length_append, ← front]
    exact List.length_take_le _ _
  refine ⟨blanks, line ++ [Byte.lf], ?_, ?_, fits, blank_line_ending ended⟩
  · rw [List.append_assoc, ← whole]
  · rw [whole] at fronted
    exact fronted.of_append

theorem scan_splits (size : Nat) (content : Bytes) :
    (scan size {} content).Splits size content := by
  rcases Nat.eq_zero_or_pos size with rfl | roomy
  -- Without any room, the line ends in front count as the rest of a head that is too large.
  · rw [scan_full]
    have none : Fronted [] [] :=
      ⟨fun _ member => absurd member List.not_mem_nil, fun _ first => by cases first⟩
    exact skipped_splits (List.nil_append content).symm none rfl
  · obtain ⟨split, fronted⟩ := fronted_text content
    rw [scan_text roomy]
    generalize content.takeWhile isLineEnd = blanks at split fronted
    generalize skipBlankLines content = text at split fronted ⊢
    subst split
    have cut := List.take_append_drop size text
    have found := head_end_take text size
    cases extended : HeadPart.extend {} (text.take size) with
    | ok pair =>
        rw [extended] at found
        obtain ⟨line, ended, taken, _⟩ := found
        exact head_splits fronted ended taken
    | error longer =>
        rw [extended] at found
        obtain ⟨_, bytes, _⟩ := found
        simp only
        split
        next short =>
          rw [List.take_of_length_le (Nat.le_of_lt short)] at bytes
          refine ⟨blanks, ?_, ?_, ?_⟩ <;> rw [bytes]
          · exact fronted
          · exact short
        next long =>
          have full : (text.take size).length = size :=
            List.length_take_of_le (Nat.le_of_not_lt long)
          have first : Fronted blanks (text.take size) := by
            rw [← cut] at fronted
            exact fronted.of_append
          refine skipped_splits ?_ first full
          rw [List.append_assoc, cut]

theorem skip_head_suffix (length : Nat) (session : Session) :
    ∃ skipped, session.content = skipped ++ (skipHead length session).2.content := by
  have scanned := congrArg (fun answer => answer.2.bytes) (skip_head_scan 0 length session)
  have left : (skipHead length session).2.content = ((Scan.ofSkipped (scanHeadEnd length
      session.content)).result 0 session.delivery.failure).2.bytes := by
    refine Eq.trans ?_ scanned
    rcases skipHead length session with ⟨_ | _, after⟩ <;> rfl
  rw [left]
  cases found : scanHeadEnd length session.content with
  | ok rest =>
      obtain ⟨skipped, _, split⟩ := scan_head_end_split found
      exact ⟨skipped, split⟩
  | error _ =>
      refine ⟨session.content, ?_⟩
      cases session.delivery.failure <;> exact (List.append_nil _).symm

end StreamHttp.Decoder
