import StreamHttp.Proofs.Message.Headers
import StreamHttp.Proofs.Text.Utf8
import StreamHttp.Proofs.Text.Words
import StreamHttp.Wire.Decoder

/-!
The length that the lines of a head declare, read off the lines themselves. Where the decoder takes
a head for a request, the window of its body has the declared length.
-/

namespace StreamHttp

namespace HeadText

def fieldValue? (name : String) (line : List Char) : Option (List Char) :=
  (cut ':' line).bind fun sides =>
    if canonicalName (String.ofList sides.1) = canonicalName name then some (trimBlank sides.2)
    else none

/-- The length declared by a head that has one Content-Length line, of decimal digits. Bytes that
are not UTF-8 count as other characters. -/
def declaredLength? (head : Bytes) : Option Nat :=
  match ((lines (Utf8.lossyChars head)).drop 1).filterMap (fieldValue? "Content-Length") with
  | [digits] => if isDecimal digits then some (decimalValue digits) else none
  | _ => none

theorem field_header_line {line : List Char} {pair : String × String}
    (read : headerLine line = .ok pair) (name : String) :
    (fieldValue? name line).map String.ofList =
      if canonicalName pair.1 = canonicalName name then some pair.2 else none := by
  unfold headerLine at read
  split at read
  · cases read
  · cases read
  · split at read
    · cases read
    next label value sides =>
      split at read
      next =>
        cases read
        simp only [fieldValue?, sides, Option.bind_some]
        split
        · rfl
        · rfl
      next => cases read

theorem fields_of_pairs (name : String) {lines : List (List Char)}
    {pairs : List (String × String)} (read : lines.mapM headerLine = .ok pairs) :
    (lines.filterMap (fieldValue? name)).map String.ofList =
      (pairs.filter fun pair => canonicalName pair.1 == canonicalName name).map Prod.snd := by
  induction lines generalizing pairs with
  | nil =>
      cases read
      rfl
  | cons line rest induction =>
      rw [List.mapM_cons] at read
      cases first : headerLine line with
      | error error => rw [first] at read; cases read
      | ok pair =>
          rw [first] at read
          cases later : rest.mapM headerLine with
          | error error => rw [later] at read; cases read
          | ok others =>
              rw [later] at read
              cases read
              have here := field_header_line first name
              have there := induction later
              by_cases same : canonicalName pair.1 = canonicalName name
              · rw [if_pos same] at here
                obtain ⟨value, found, text⟩ := Option.map_eq_some_iff.1 here
                rw [List.filterMap_cons_some found,
                  List.filter_cons_of_pos (by simpa using same), List.map_cons, List.map_cons,
                  text, there]
              · rw [if_neg same] at here
                rw [List.filterMap_cons_none (Option.map_eq_none_iff.1 here),
                  List.filter_cons_of_neg (by simpa using same), there]

theorem fields_filled (name : String) (lines : List (List Char)) :
    (lines.filter fun line => !line.isEmpty).filterMap (fieldValue? name) =
      lines.filterMap (fieldValue? name) := by
  induction lines with
  | nil => rfl
  | cons line rest induction =>
      cases line with
      | nil =>
          rw [List.filter_cons_of_neg (by simp), List.filterMap_cons_none rfl, induction]
      | cons char line =>
          rw [List.filter_cons_of_pos (by simp)]
          cases found : fieldValue? name (char :: line) with
          | none => rw [List.filterMap_cons_none found, List.filterMap_cons_none found, induction]
          | some value =>
              rw [List.filterMap_cons_some found, List.filterMap_cons_some found, induction]

theorem headers_get_all {lines : List (List Char)} {read : Headers}
    (parsed : headers lines = .ok read) (name : String) :
    read.getAll name = (lines.filterMap (fieldValue? name)).map String.ofList := by
  simp only [headers] at parsed
  cases pairs : (lines.filter fun line => !line.isEmpty).mapM headerLine with
  | error error => rw [pairs] at parsed; cases parsed
  | ok listed =>
      rw [pairs] at parsed
      cases parsed
      rw [Headers.get_all_of_pairs, ← fields_of_pairs name pairs, fields_filled]

theorem parse_ok {head : Bytes} {made : Head} (parsed : parse head = .ok made) :
    ∃ text method target fields, Utf8.decode? head = some text ∧
      requestLine ((lines text.toList).headD []) = .ok (method, target) ∧
      headers ((lines text.toList).drop 1) = .ok fields ∧
      made = Head.make method target fields := by
  unfold parse at parsed
  cases decoded : Utf8.decode? head with
  | none => rw [decoded] at parsed; cases parsed
  | some text =>
      rw [decoded] at parsed
      simp only at parsed
      cases first : requestLine ((lines text.toList).headD []) with
      | error error => rw [first] at parsed; cases parsed
      | ok named =>
          rw [first] at parsed
          cases rest : headers ((lines text.toList).drop 1) with
          | error error =>
              change (headers ((lines text.toList).drop 1) >>= fun fields => pure _) = _ at parsed
              rw [rest] at parsed
              cases parsed
          | ok fields =>
              change (headers ((lines text.toList).drop 1) >>= fun fields =>
                pure (Head.make named.1 named.2 fields)) = _ at parsed
              rw [rest] at parsed
              cases parsed
              exact ⟨text, named.1, named.2, fields, rfl, first, rest, rfl⟩

end HeadText

namespace Head

theorem body_length_decimal {head : Head} {digits : List Char}
    (announced : head.headers.getAll "Content-Length" = [String.ofList digits])
    (decimal : isDecimal digits = true) :
    head.bodyLength =
      if decimalValue digits ≤ u64Max then .ok (some (decimalValue digits))
      else .error (.invalidContentLength (String.ofList digits)) := by
  have undivided : ',' ∉ digits := by
    intro member
    exact absurd (decimal_char decimal member).1 (by decide)
  have unsigned : isNegative (String.ofList digits) = false := by
    simp only [isNegative, String.toList_ofList]
    split
    next rest =>
      exact absurd (decimal_char decimal List.mem_cons_self).1 (by decide)
    next => rfl
  have trimmed : Text.trim (String.ofList digits) = String.ofList digits := by
    rw [Text.trim, String.toList_ofList, trim_solid (decimal_solid decimal)]
  have piece : Text.piecesOf ',' (String.ofList digits) = [String.ofList digits] := by
    rw [Text.piecesOf, String.toList_ofList, pieces_alone undivided]
    rfl
  simp only [bodyLength, announced, List.flatMap_cons, List.flatMap_nil, List.append_nil, piece,
    List.foldlM_cons, List.foldlM_nil, trimmed, agree, unsigned, Bool.false_eq_true, if_false,
    String.toList_ofList, natural_decimal decimal]
  by_cases fits : decimalValue digits ≤ u64Max
  · rw [if_pos fits, if_pos fits]
    rfl
  · rw [if_neg fits, if_neg fits]
    rfl

theorem body_length_none {head : Head} (silent : head.headers.getAll "Content-Length" = []) :
    head.bodyLength = .ok none := by
  rw [bodyLength, silent]
  rfl

end Head

namespace Decoder

theorem of_head_ok {head : Bytes} {decoded : Decoded} (read : ofHead head = .ok decoded) :
    ∃ length, HeadText.parse head = .ok decoded.head ∧ decoded.head.bodyLength = .ok length ∧
      decoded.window = length.getD 0 := by
  unfold ofHead at read
  cases parsed : HeadText.parse head with
  | error error => rw [parsed] at read; cases read
  | ok made =>
      rw [parsed] at read
      change (made.bodyLength >>= fun length => pure (Decoded.mk made (length.getD 0))) = _ at read
      cases measured : made.bodyLength with
      | error error => rw [measured] at read; cases read
      | ok length =>
          rw [measured] at read
          cases read
          exact ⟨length, rfl, measured, rfl⟩

/-- A request is decoded with the length that its head declares. -/
theorem window_declared {head : Bytes} {decoded : Decoded} {length : Nat}
    (read : ofHead head = .ok decoded) (declared : HeadText.declaredLength? head = some length) :
    decoded.window = length := by
  obtain ⟨announced, parsed, measured, window⟩ := of_head_ok read
  obtain ⟨text, method, target, headers, read, _, fields, made⟩ := HeadText.parse_ok parsed
  unfold HeadText.declaredLength? at declared
  rw [Utf8.lossy_decode read] at declared
  split at declared
  next digits listed =>
    split at declared
    next decimal =>
      cases declared
      have all : decoded.head.headers.getAll "Content-Length" = [String.ofList digits] := by
        rw [made]
        change headers.getAll _ = _
        rw [HeadText.headers_get_all fields, listed]
        rfl
      rw [Head.body_length_decimal all decimal] at measured
      split at measured
      · cases measured
        exact window
      · cases measured
    next => cases declared
  next => cases declared

end Decoder

end StreamHttp
