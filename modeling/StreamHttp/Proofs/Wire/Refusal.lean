import StreamHttp.Wire.Decoder

/-!
Why a head is refused: for what stands in it, and never for a failure of the input that it was read
from.
-/

namespace StreamHttp

section

variable {ε α β : Type} {error : ε}

theorem bind_refused {first : Except ε α} {next : α → Except ε β}
    (refused : first >>= next = .error error) :
    first = .error error ∨ ∃ value, first = .ok value ∧ next value = .error error := by
  cases first with
  | error other =>
      cases refused
      exact .inl rfl
  | ok value => exact .inr ⟨value, rfl, refused⟩

theorem map_refused {step : α → Except ε β} {list : List α}
    (refused : list.mapM step = .error error) : ∃ item, step item = .error error := by
  induction list with
  | nil => cases refused
  | cons item rest induction =>
      rw [List.mapM_cons] at refused
      rcases bind_refused refused with first | ⟨value, _, later⟩
      · exact ⟨item, first⟩
      · rcases bind_refused later with others | ⟨values, _, done⟩
        · exact induction others
        · cases done

theorem fold_refused {step : β → α → Except ε β} {start : β} {list : List α}
    (refused : list.foldlM step start = .error error) :
    ∃ value item, step value item = .error error := by
  induction list generalizing start with
  | nil => cases refused
  | cons item rest induction =>
      rw [List.foldlM_cons] at refused
      rcases bind_refused refused with first | ⟨value, _, later⟩
      · exact ⟨start, item, first⟩
      · exact induction later

end

variable {message : String}

namespace HeadText

theorem request_line_refused (line : List Char) : requestLine line ≠ .error (.io message) := by
  intro refused
  unfold requestLine at refused
  split at refused
  · split at refused
    · cases refused
    · split at refused
      · cases refused
      · split at refused
        · cases refused
        · cases refused
  · cases refused

theorem header_line_refused (line : List Char) : headerLine line ≠ .error (.io message) := by
  intro refused
  unfold headerLine at refused
  split at refused
  · cases refused
  · cases refused
  · split at refused
    · cases refused
    · split at refused
      · cases refused
      · cases refused

theorem parse_refused (head : Bytes) : parse head ≠ .error (.io message) := by
  intro refused
  unfold parse at refused
  split at refused
  · cases refused
  · rcases bind_refused refused with first | ⟨named, _, later⟩
    · exact request_line_refused _ first
    · rcases bind_refused later with fields | ⟨headers, _, done⟩
      · rcases bind_refused fields with mapped | ⟨pairs, _, done⟩
        · obtain ⟨line, refused⟩ := map_refused mapped
          exact header_line_refused line refused
        · cases done
      · cases done

end HeadText

namespace Head

theorem agree_refused (length : Option Nat) (text : String) :
    agree length text ≠ .error (.io message) := by
  intro refused
  unfold agree at refused
  split at refused
  · cases refused
  · split at refused
    · cases refused
    · split at refused
      · cases refused
      · split at refused
        · cases refused
        · cases refused

end Head

namespace Decoder

/-- What is wrong with a head is never that the input failed. -/
theorem of_head_refused (head : Bytes) : ofHead head ≠ .error (.io message) := by
  intro refused
  rcases bind_refused refused with parsed | ⟨made, _, later⟩
  · exact HeadText.parse_refused head parsed
  · rcases bind_refused later with measured | ⟨length, _, done⟩
    · obtain ⟨length, piece, refused⟩ := fold_refused measured
      exact Head.agree_refused length _ refused
    · cases done

end Decoder

end StreamHttp
