import StreamHttp.Proofs.Wire.HeadText

/-!
Requests as a client writes them: a request line of three words, header lines of a name and a value,
a blank line and a body. Lines end with CR LF or with LF alone, blanks may stand around a value, and
line ends in front of the request. What is written so is read back.
-/

namespace StreamHttp

def returnOf (returned : Bool) : List Char := if returned then ['\r'] else []

/-- A header line. -/
structure FieldLine where
  name : String
  before : List Char := []
  value : String
  after : List Char := []
  returned : Bool := true

structure WireRequest where
  /-- The line ends in front of the request. -/
  front : Bytes := []
  method : String
  targetText : String
  target : Target
  /-- What the version goes on with, behind its major number. -/
  minor : String := "1"
  returned : Bool := true
  fields : List FieldLine := []
  blankReturned : Bool := true
  body : Bytes := []

namespace FieldLine

def line (field : FieldLine) : List Char :=
  field.name.toList ++ ':' ::
    (field.before ++ field.value.toList ++ field.after ++ returnOf field.returned)

structure Wellformed (field : FieldLine) : Prop where
  name : HeadText.isLineName field.name.toList = true
  colonless : ':' ∉ field.name.toList
  before : ∀ char ∈ field.before, isBlank char = true ∧ char ≠ '\n'
  after : ∀ char ∈ field.after, isBlank char = true ∧ char ≠ '\n'
  feedless : '\n' ∉ field.value.toList
  trimmed : trimBlank field.value.toList = field.value.toList

end FieldLine

namespace WireRequest

def version (request : WireRequest) : String := "HTTP/1." ++ request.minor

def requestLine (request : WireRequest) : List Char :=
  request.method.toList ++ ' ' :: (request.targetText.toList ++ ' ' ::
    (request.version.toList ++ returnOf request.returned))

def lines (request : WireRequest) : List (List Char) :=
  request.requestLine :: request.fields.map FieldLine.line

def head (request : WireRequest) : Bytes :=
  Bytes.ofChars (request.lines.flatMap fun line => line ++ ['\n'])

def blankLine (request : WireRequest) : Bytes :=
  Bytes.ofChars (returnOf request.blankReturned ++ ['\n'])

def bytes (request : WireRequest) : Bytes :=
  request.front ++ (request.head ++ request.blankLine) ++ request.body

def pairs (request : WireRequest) : List (String × String) :=
  request.fields.map fun field => (field.name, field.value)

def announced (request : WireRequest) : List String :=
  (request.pairs.filter fun pair => canonicalName pair.1 == "Content-Length").map Prod.snd

structure Wellformed (request : WireRequest) : Prop where
  front : ∀ byte ∈ request.front, byte = Byte.cr ∨ byte = Byte.lf
  method : Method.parse? request.method = some request.method
  target : Target.parse request.targetText = .ok request.target
  minor : ∀ char ∈ request.minor.toList, isBlank char = false
  fields : ∀ field ∈ request.fields, field.Wellformed
  length : request.announced = [] ∧ request.body = [] ∨
    ∃ digits, request.announced = [String.ofList digits] ∧ isDecimal digits = true ∧
      decimalValue digits = request.body.length
  bounded : request.body.length ≤ u64Max

end WireRequest

theorem token_byte_solid : ∀ value < 256, isTokenByte (UInt8.ofNat value) = true →
    value < 128 ∧ isBlank (Char.ofNat value) = false := by
  decide +kernel

theorem token_solid {chars : List Char} (token : isToken (Bytes.ofChars chars) = true) :
    ∀ char ∈ chars, isBlank char = false := by
  intro char member
  simp only [isToken, Bool.and_eq_true, List.all_eq_true] at token
  cases encoded : String.utf8EncodeChar char with
  | nil => exact absurd encoded String.utf8EncodeChar_ne_nil
  | cons byte rest =>
      have written : byte ∈ String.utf8EncodeChar char := by
        rw [encoded]
        exact List.mem_cons_self
      have admitted := token.2 byte (List.mem_flatMap.2 ⟨char, member, written⟩)
      have solid := token_byte_solid byte.toNat byte.toNat_lt
        (by rw [UInt8.ofNat_toNat]; exact admitted)
      rw [Utf8.encoded_ascii written solid.1]
      exact solid.2

theorem line_name_char {name : List Char} (named : HeadText.isLineName name = true) {char : Char}
    (member : char ∈ name) : char ≠ ' ' ∧ char ≠ '\t' ∧ char ≠ '\n' ∧ char ≠ '\r' := by
  simp only [HeadText.isLineName, Bool.and_eq_true, List.all_eq_true] at named
  have admitted (byte : Byte) (written : byte ∈ String.utf8EncodeChar char) :=
    named.2 byte (List.mem_flatMap.2 ⟨char, member, written⟩)
  refine ⟨?_, ?_, ?_, ?_⟩
  · rintro rfl
    exact absurd (admitted 32 (by decide)) (by decide)
  · rintro rfl
    exact absurd (admitted 9 (by decide)) (by decide)
  · rintro rfl
    exact absurd (admitted 10 (by decide)) (by decide)
  · rintro rfl
    exact absurd (admitted 13 (by decide)) (by decide)

theorem line_name_cons {name : List Char} (named : HeadText.isLineName name = true) :
    ∃ char others, name = char :: others ∧
      char ≠ ' ' ∧ char ≠ '\t' ∧ char ≠ '\n' ∧ char ≠ '\r' := by
  cases name with
  | nil => cases named
  | cons char others => exact ⟨char, others, rfl, line_name_char named List.mem_cons_self⟩

namespace HeadText

def stripReturn (line : List Char) : List Char := (stripEnd ['\r'] line).getD line

theorem strip_return_snoc (line : List Char) : stripReturn (line ++ ['\r']) = line := by
  simp [stripReturn, stripEnd, stripStart]

theorem strip_return_other (line : List Char) {char : Char} (other : char ≠ '\r') :
    stripReturn (line ++ [char]) = line ++ [char] := by
  simp [stripReturn, stripEnd, stripStart, other]

theorem strip_return_split (line : List Char) :
    stripReturn line = line ∨ line = stripReturn line ++ ['\r'] := by
  rcases List.eq_nil_or_concat line with rfl | ⟨front, char, rfl⟩
  · exact .inl rfl
  · rw [List.concat_eq_append]
    by_cases returned : char = '\r'
    · subst returned
      rw [strip_return_snoc]
      exact .inr rfl
    · exact .inl (strip_return_other front returned)

theorem lines_written {all : List (List Char)} (feedless : ∀ line ∈ all, '\n' ∉ line) :
    lines (all.flatMap fun line => line ++ ['\n']) = all.map stripReturn ++ [[]] := by
  induction all with
  | nil => rfl
  | cons line rest induction =>
      have whole : (line :: rest).flatMap (fun line => line ++ ['\n']) =
          line ++ '\n' :: rest.flatMap fun line => line ++ ['\n'] := by
        simp
      rw [lines, whole, pieces_append (feedless line List.mem_cons_self), List.map_cons,
        List.map_cons, List.cons_append,
        ← induction fun other member => feedless other (List.mem_cons_of_mem _ member)]
      rfl

end HeadText

namespace FieldLine

variable {field : FieldLine}

theorem Wellformed.feedless_line (wellformed : field.Wellformed) : '\n' ∉ field.line := by
  simp only [line, List.mem_append, List.mem_cons, not_or]
  refine ⟨fun member => ?_, by decide, ⟨⟨fun member => ?_, wellformed.feedless⟩, fun member => ?_⟩, ?_⟩
  · exact (line_name_char wellformed.name member).2.2.1 rfl
  · exact (wellformed.before _ member).2 rfl
  · exact (wellformed.after _ member).2 rfl
  · unfold returnOf
    split <;> decide

/-- A carriage return that is stripped stood behind the colon, where it would be trimmed anyway. -/
theorem Wellformed.stripped (wellformed : field.Wellformed) :
    ∃ rest, HeadText.stripReturn field.line = field.name.toList ++ ':' :: rest ∧
      trimBlank rest = field.value.toList := by
  have blank : ∀ char ∈ field.after ++ returnOf field.returned, isBlank char = true := by
    intro char member
    rcases List.mem_append.1 member with padding | ending
    · exact (wellformed.after char padding).1
    · unfold returnOf at ending
      split at ending
      · cases List.mem_singleton.1 ending
        decide
      · cases ending
  have trimmed : trimBlank (field.before ++ field.value.toList ++ field.after ++
      returnOf field.returned) = field.value.toList := by
    rw [List.append_assoc, trim_padded (fun char member => (wellformed.before char member).1) blank,
      wellformed.trimmed]
  rcases HeadText.strip_return_split field.line with same | returned
  · exact ⟨_, same, trimmed⟩
  · rcases List.eq_nil_or_concat (field.before ++ field.value.toList ++ field.after ++
        returnOf field.returned) with empty | ⟨rest, char, whole⟩
    · rw [line, empty] at returned
      have last := congrArg List.getLast? returned
      simp at last
    · rw [List.concat_eq_append] at whole
      rw [line, whole, ← List.cons_append, ← List.append_assoc] at returned ⊢
      obtain ⟨front, ending⟩ := List.append_inj' returned rfl
      cases ending
      refine ⟨rest, front.symm, ?_⟩
      rw [whole] at trimmed
      have unpadded : ∀ char ∈ ([] : List Char), isBlank char = true :=
        List.forall_mem_nil _
      have returns : ∀ char ∈ ['\r'], isBlank char = true :=
        List.forall_mem_singleton.2 rfl
      have padded := trim_padded unpadded returns rest
      rw [List.nil_append] at padded
      rw [← padded, trimmed]

theorem Wellformed.read (wellformed : field.Wellformed) :
    HeadText.headerLine (HeadText.stripReturn field.line) = .ok (field.name, field.value) := by
  obtain ⟨rest, line, value⟩ := wellformed.stripped
  obtain ⟨char, others, name, solid⟩ := line_name_cons wellformed.name
  rw [line]
  unfold HeadText.headerLine
  split
  next equal =>
    rw [name] at equal
    exact absurd (List.cons.inj equal).1 solid.1
  next equal =>
    rw [name] at equal
    exact absurd (List.cons.inj equal).1 solid.2.1
  next =>
    rw [cut_append wellformed.colonless]
    simp only [wellformed.name, if_true, value, String.ofList_toList]

end FieldLine

namespace WireRequest

variable {request : WireRequest}

theorem Wellformed.token (wellformed : request.Wellformed) :
    isToken (Bytes.ofString request.method) = true := by
  have parsed := wellformed.method
  unfold Method.parse? at parsed
  split at parsed
  next token => exact token
  next => cases parsed

theorem Wellformed.method_filled (wellformed : request.Wellformed) :
    request.method.toList ≠ [] := by
  intro empty
  have token := wellformed.token
  rw [Bytes.ofString, empty] at token
  cases token

theorem Wellformed.target_filled (wellformed : request.Wellformed) :
    request.targetText.toList ≠ [] := by
  intro empty
  have parsed := wellformed.target
  have bytes : Bytes.ofString request.targetText = [] := by
    rw [Bytes.ofString, empty]
    rfl
  unfold Target.parse at parsed
  rw [bytes] at parsed
  cases parsed

theorem version_list (request : WireRequest) :
    request.version.toList = "HTTP/1.".toList ++ request.minor.toList := by
  rw [version, String.toList_append]

theorem Wellformed.version_solid (wellformed : request.Wellformed) :
    ∀ char ∈ request.version.toList, isBlank char = false := by
  intro char member
  rw [version_list] at member
  rcases List.mem_append.1 member with fixed | minor
  · have solid : ("HTTP/1.".toList.all fun char => !isBlank char) = true := by decide
    simpa only [Bool.not_eq_true'] using List.all_eq_true.1 solid char fixed
  · exact wellformed.minor char minor

theorem Wellformed.strip_line (wellformed : request.Wellformed) :
    HeadText.stripReturn request.requestLine =
      request.method.toList ++ ' ' :: (request.targetText.toList ++ ' ' ::
        request.version.toList) := by
  unfold requestLine returnOf
  split
  · have snoc := HeadText.strip_return_snoc (request.method.toList ++ ' ' ::
      (request.targetText.toList ++ ' ' :: request.version.toList))
    simpa using snoc
  · rcases List.eq_nil_or_concat request.version.toList with empty | ⟨front, char, whole⟩
    · rw [version_list] at empty
      exact absurd (List.append_eq_nil_iff.1 empty).1 (by decide)
    · rw [List.concat_eq_append] at whole
      have other : char ≠ '\r' := by
        rintro rfl
        have solid := wellformed.version_solid '\r' (by rw [whole]; simp)
        exact absurd solid (by decide)
      have kept := HeadText.strip_return_other (request.method.toList ++ ' ' ::
        (request.targetText.toList ++ ' ' :: front)) other
      simpa [whole] using kept

/-- The request line is read back, if no blank of any script stands in the target. -/
theorem Wellformed.read_line (wellformed : request.Wellformed)
    (solid : ∀ char ∈ request.targetText.toList, isBlank char = false) :
    HeadText.requestLine (HeadText.stripReturn request.requestLine) =
      .ok (request.method, request.target) := by
  have versioned : request.version.toList ≠ [] := by
    rw [version_list]
    simp
  have words : blankWords (HeadText.stripReturn request.requestLine) =
      [request.method.toList, request.targetText.toList, request.version.toList] := by
    rw [wellformed.strip_line,
      blank_words_append wellformed.method_filled (token_solid wellformed.token) (by decide),
      blank_words_append wellformed.target_filled solid (by decide),
      blank_words_alone versioned wellformed.version_solid]
  have supported : Text.startsWith "HTTP/1." request.version = true := by
    rw [Text.startsWith, version_list, strip_start_append]
    rfl
  unfold HeadText.requestLine
  rw [words]
  simp only [List.map_cons, List.map_nil, String.ofList_toList, supported, Bool.not_true,
    Bool.false_eq_true, if_false, wellformed.method, wellformed.target]

theorem Wellformed.feedless_lines (wellformed : request.Wellformed)
    (solid : ∀ char ∈ request.targetText.toList, isBlank char = false) :
    ∀ line ∈ request.lines, '\n' ∉ line := by
  have absent {chars : List Char} (none : ∀ char ∈ chars, isBlank char = false) :
      '\n' ∉ chars := by
    intro member
    exact absurd (none '\n' member) (by decide)
  intro line member
  rcases List.mem_cons.1 member with rfl | listed
  · simp only [requestLine, List.mem_append, List.mem_cons, not_or]
    refine ⟨absent (token_solid wellformed.token), by decide, absent solid, by decide,
      absent wellformed.version_solid, ?_⟩
    unfold returnOf
    split <;> decide
  · obtain ⟨field, written, rfl⟩ := List.mem_map.1 listed
    exact (wellformed.fields field written).feedless_line

theorem read_fields {fields : List FieldLine} (wellformed : ∀ field ∈ fields, field.Wellformed) :
    HeadText.headers ((fields.map FieldLine.line).map HeadText.stripReturn ++ [[]]) =
      .ok (Headers.ofPairs (fields.map fun field => (field.name, field.value))) := by
  have read : (((fields.map FieldLine.line).map HeadText.stripReturn ++ [[]]).filter
      fun (line : List Char) => !line.isEmpty).mapM HeadText.headerLine =
        .ok (fields.map fun (field : FieldLine) => (field.name, field.value)) := by
    induction fields with
    | nil => rfl
    | cons field rest induction =>
        have here := (wellformed field List.mem_cons_self).read
        have filled : HeadText.stripReturn field.line ≠ [] := by
          intro empty
          rw [empty] at here
          cases here
        rw [List.map_cons, List.map_cons, List.cons_append,
          List.filter_cons_of_pos (by simpa using filled), List.mapM_cons, here,
          induction fun other member => wellformed other (List.mem_cons_of_mem _ member)]
        rfl
  rw [HeadText.headers, read]
  rfl

theorem Wellformed.read_head (wellformed : request.Wellformed)
    (solid : ∀ char ∈ request.targetText.toList, isBlank char = false) :
    HeadText.parse request.head =
      .ok (Head.make request.method request.target (Headers.ofPairs request.pairs)) := by
  unfold HeadText.parse
  rw [head, Utf8.decode_encoded]
  simp only [String.toList_ofList]
  rw [HeadText.lines_written (wellformed.feedless_lines solid), lines, List.map_cons,
    List.cons_append, List.headD_cons, List.drop_one, List.tail_cons,
    wellformed.read_line solid, read_fields wellformed.fields]
  rfl

/-- A request is decoded with the length of the body that follows. -/
theorem Wellformed.of_head (wellformed : request.Wellformed)
    (solid : ∀ char ∈ request.targetText.toList, isBlank char = false) :
    Decoder.ofHead request.head =
      .ok ⟨Head.make request.method request.target (Headers.ofPairs request.pairs),
        request.body.length⟩ := by
  have announced : (Head.make request.method request.target
      (Headers.ofPairs request.pairs)).headers.getAll "Content-Length" = request.announced :=
    Headers.get_all_of_pairs _ _
  unfold Decoder.ofHead
  rw [wellformed.read_head solid]
  rcases wellformed.length with ⟨silent, empty⟩ | ⟨digits, one, decimal, value⟩
  · rw [silent] at announced
    simp only [bind, Except.bind, Head.body_length_none announced, empty]
    rfl
  · rw [one] at announced
    have fits : decimalValue digits ≤ u64Max := by
      rw [value]
      exact wellformed.bounded
    have measured := Head.body_length_decimal announced decimal
    rw [if_pos fits, value] at measured
    simp only [bind, Except.bind, measured]
    rfl

end WireRequest

end StreamHttp
