import StreamHttp.Proofs.Text.Utf8
import StreamHttp.Proofs.Text.Words

/-!
Messages as their receiver reads them: a head up to the first blank line, cut into lines at CR LF,
each line but the first cut at its first colon and space, and a body of the length that the head
declares. Nothing here knows how the messages were written.
-/

namespace StreamHttp

section

variable {α : Type} [BEq α]

/-- Cuts at the first place where the mark stands; the mark belongs to neither side. -/
def cutMark (mark : List α) : List α → Option (List α × List α)
  | [] => none
  | item :: rest =>
      match stripStart mark (item :: rest) with
      | some right => some ([], right)
      | none => (cutMark mark rest).map fun sides => (item :: sides.1, sides.2)

variable [LawfulBEq α] {first : α} {more : List α}

theorem cut_mark_sound {mark list left right : List α}
    (found : cutMark mark list = some (left, right)) : list = left ++ (mark ++ right) := by
  induction list generalizing left with
  | nil => cases found
  | cons item rest induction =>
      rw [cutMark] at found
      split at found
      next stripped =>
        cases found
        have front : item :: rest = mark ++ right := strip_start_iff.1 stripped
        exact front
      next =>
        rcases sides : cutMark mark rest with _ | ⟨before, after⟩
        · rw [sides] at found
          cases found
        · rw [sides] at found
          cases found
          rw [induction sides, List.cons_append]

theorem cut_mark_skip {text : List α} (absent : first ∉ text) (rest : List α) :
    cutMark (first :: more) (text ++ rest) =
      (cutMark (first :: more) rest).map fun sides => (text ++ sides.1, sides.2) := by
  induction text with
  | nil =>
      rw [List.nil_append]
      exact Option.map_id'.symm
  | cons item text induction =>
      have different : (item == first) = false := by
        simp only [beq_eq_false_iff_ne]
        rintro rfl
        exact absent List.mem_cons_self
      have unmarked : stripStart (first :: more) (item :: (text ++ rest)) = none := by
        simp only [stripStart, different, Bool.false_eq_true, if_false]
      rw [List.cons_append, cutMark, unmarked,
        induction fun member => absent (List.mem_cons_of_mem _ member), Option.map_map]
      rfl

theorem cut_mark_here (right : List α) :
    cutMark (first :: more) (first :: more ++ right) = some ([], right) := by
  rw [List.cons_append, cutMark, ← List.cons_append, strip_start_append]

theorem cut_mark_append {left : List α} (absent : first ∉ left) (right : List α) :
    cutMark (first :: more) (left ++ (first :: more ++ right)) = some (left, right) := by
  rw [cut_mark_skip absent, cut_mark_here, Option.map_some, List.append_nil]

end

def crlf : Bytes := [Byte.cr, Byte.lf]

theorem cut_line_shorter {text line rest : Bytes} (found : cutMark crlf text = some (line, rest)) :
    rest.length < text.length := by
  rw [cut_mark_sound found]
  simp only [List.length_append, crlf, List.length_cons, List.length_nil]
  omega

def crlfLines (text : Bytes) : List Bytes :=
  match found : cutMark crlf text with
  | none => [text]
  | some (line, rest) =>
      have := cut_line_shorter found
      line :: crlfLines rest
termination_by text.length

/-- Lines with a CR LF between them, each free of carriage returns, come apart again. -/
theorem crlf_lines_joined {first : Bytes} {others : List Bytes}
    (whole : ∀ line ∈ first :: others, Byte.cr ∉ line) :
    crlfLines (first ++ others.flatMap fun line => crlf ++ line) = first :: others := by
  induction others generalizing first with
  | nil =>
      have uncut : cutMark crlf (first ++ []) = none := by
        rw [crlf, cut_mark_skip (whole first List.mem_cons_self)]
        rfl
      rw [crlfLines]
      split
      next => rw [List.flatMap_nil, List.append_nil]
      next found =>
        rw [List.flatMap_nil, uncut] at found
        cases found
  | cons next others induction =>
      have cut : cutMark crlf (first ++ (next :: others).flatMap fun line => crlf ++ line) =
          some (first, next ++ others.flatMap fun line => crlf ++ line) := by
        rw [List.flatMap_cons, List.append_assoc]
        exact cut_mark_append (whole first List.mem_cons_self) _
      rw [crlfLines]
      split
      next uncut =>
        rw [cut] at uncut
        cases uncut
      next found =>
        rw [cut] at found
        cases found
        rw [induction fun line member => whole line (List.mem_cons_of_mem _ member)]

/-- A line end in front of a byte that begins a line is not a blank line. -/
theorem cut_head_skip {byte : Byte} (begins : byte ≠ Byte.cr) (rest : Bytes) :
    cutMark (crlf ++ crlf) (crlf ++ byte :: rest) =
      (cutMark (crlf ++ crlf) (byte :: rest)).map fun sides => (crlf ++ sides.1, sides.2) := by
  have feed : (Byte.lf == Byte.cr) = false := by decide
  have other : (byte == Byte.cr) = false := by simpa using begins
  simp only [crlf, List.cons_append, List.nil_append, cutMark, stripStart, beq_self_eq_true,
    if_true, feed, other, Bool.false_eq_true, if_false, Option.map_map]
  rfl

theorem cut_head {first : Bytes} {others : List Bytes}
    (whole : ∀ line ∈ first :: others, Byte.cr ∉ line) (filled : ∀ line ∈ others, line ≠ [])
    (rest : Bytes) :
    cutMark (crlf ++ crlf)
        (first ++ ((others.flatMap fun line => crlf ++ line) ++ (crlf ++ crlf ++ rest))) =
      some (first ++ others.flatMap fun line => crlf ++ line, rest) := by
  induction others generalizing first with
  | nil =>
      rw [List.flatMap_nil, List.append_nil]
      exact cut_mark_append (whole first List.mem_cons_self) rest
  | cons next others induction =>
      have lines : ∀ line ∈ next :: others, Byte.cr ∉ line :=
        fun line member => whole line (List.mem_cons_of_mem _ member)
      have later := induction lines
        fun line member => filled line (List.mem_cons_of_mem _ member)
      have skipped (behind : Bytes) : cutMark (crlf ++ crlf) (first ++ behind) =
          (cutMark (crlf ++ crlf) behind).map fun sides => (first ++ sides.1, sides.2) :=
        cut_mark_skip (whole first List.mem_cons_self) behind
      obtain ⟨byte, tail, rfl⟩ := List.exists_cons_of_ne_nil (filled next List.mem_cons_self)
      have begins : byte ≠ Byte.cr := by
        rintro rfl
        exact lines _ List.mem_cons_self List.mem_cons_self
      rw [List.cons_append] at later
      rw [skipped, List.flatMap_cons, List.append_assoc, List.append_assoc, List.cons_append,
        cut_head_skip begins, later]
      simp only [Option.map_some, List.cons_append, List.append_assoc]

/-- A message off the wire. Its fields are those of the head, the declared length among them. -/
structure WireMessage where
  status : Nat
  reason : String
  fields : List (String × String)
  length : Nat
  body : Bytes
  deriving DecidableEq, Repr

namespace WireMessage

def decimal? (text : String) : Option Nat :=
  if isDecimal text.toList then some (decimalValue text.toList) else none

def statusLine? (line : Bytes) : Option (Nat × String) := do
  let (version, behind) ← cut (Byte.ofAscii ' ') line
  let (code, reason) ← cut (Byte.ofAscii ' ') behind
  if version == Bytes.ofString "HTTP/1.1" then
    return (← decimal? (← Utf8.decode? code), ← Utf8.decode? reason)
  else none

def field? (line : Bytes) : Option (String × String) := do
  let (name, value) ← cutMark [Byte.ofAscii ':', Byte.ofAscii ' '] line
  return (← Utf8.decode? name, ← Utf8.decode? value)

/-- The length of the body. It is declared once and in decimal digits, or there is none. -/
def declaredLength? (fields : List (String × String)) : Option Nat :=
  match fields.filter fun field => Text.sameIgnoringCase field.1 "Content-Length" with
  | [field] => decimal? field.2
  | _ => none

/-- Reads one message, and what is left behind it. The answer to a HEAD request has no body,
whatever length is declared. -/
def read? (bodiless : Bool) (input : Bytes) : Option (WireMessage × Bytes) := do
  let (head, behind) ← cutMark (crlf ++ crlf) input
  let lines := crlfLines head
  let (status, reason) ← statusLine? (lines.headD [])
  let fields ← (lines.drop 1).mapM field?
  let length ← declaredLength? fields
  if bodiless then return (⟨status, reason, fields, length, []⟩, behind)
  else if length ≤ behind.length then
    return (⟨status, reason, fields, length, behind.take length⟩, behind.drop length)
  else none

def readAll : List Bool → Bytes → Option (List WireMessage × Bytes)
  | [], input => some ([], input)
  | bodiless :: others, input => do
      let (message, behind) ← read? bodiless input
      let (messages, rest) ← readAll others behind
      return (message :: messages, rest)

/-- Lines that can be told apart are read back, with as much of what follows as they declare. -/
theorem read_lines {first : Bytes} {others : List Bytes}
    (whole : ∀ line ∈ first :: others, Byte.cr ∉ line) (filled : ∀ line ∈ others, line ≠ [])
    {status length : Nat} {reason : String} {fields : List (String × String)}
    (started : statusLine? first = some (status, reason))
    (listed : others.mapM field? = some fields)
    (declared : declaredLength? fields = some length) {bodiless : Bool} {body : Bytes}
    (sized : body.length = if bodiless then 0 else length) (rest : Bytes) :
    read? bodiless
        (first ++ ((others.flatMap fun line => crlf ++ line) ++ (crlf ++ crlf ++ (body ++ rest)))) =
      some (⟨status, reason, fields, length, body⟩, rest) := by
  have lines := crlf_lines_joined whole
  unfold read?
  rw [cut_head whole filled]
  simp only [Option.bind_eq_bind, Option.bind_some, lines, List.headD_cons, List.drop_one,
    List.tail_cons, started, listed, declared]
  cases bodiless with
  | true =>
      rw [if_pos rfl] at sized ⊢
      rw [List.length_eq_zero_iff.1 sized]
      rfl
  | false =>
      rw [if_neg Bool.false_ne_true] at sized ⊢
      subst sized
      rw [if_pos (by simp), List.take_left, List.drop_left]
      rfl

end WireMessage

end StreamHttp
