import Mathlib.Data.List.TakeWhile
import StreamHttp.Text.Numeral

/-!
Texts that are put together come apart again: pieces, words, trimmed values and decimal digits.
-/

namespace StreamHttp

section

variable {α : Type} [BEq α] [LawfulBEq α] {separator : α}

theorem pieces_append {first : List α} (absent : separator ∉ first) (rest : List α) :
    pieces separator (first ++ separator :: rest) = first :: pieces separator rest := by
  induction first with
  | nil => simp [pieces]
  | cons item first induction =>
      have different : (item == separator) = false := by
        simp only [beq_eq_false_iff_ne]
        rintro rfl
        exact absent List.mem_cons_self
      rw [List.cons_append, pieces, if_neg (by simp [different]),
        induction fun member => absent (List.mem_cons_of_mem _ member)]

theorem pieces_alone {list : List α} (absent : separator ∉ list) :
    pieces separator list = [list] := by
  induction list with
  | nil => rfl
  | cons item rest induction =>
      have different : (item == separator) = false := by
        simp only [beq_eq_false_iff_ne]
        rintro rfl
        exact absent List.mem_cons_self
      rw [pieces, if_neg (by simp [different]),
        induction fun member => absent (List.mem_cons_of_mem _ member)]

theorem not_mem_pieces {list piece : List α} (member : piece ∈ pieces separator list) :
    separator ∉ piece := by
  induction list generalizing piece with
  | nil =>
      rw [List.mem_singleton.1 member]
      exact List.not_mem_nil
  | cons item rest induction =>
      simp only [pieces] at member
      split at member
      next =>
        rcases List.mem_cons.1 member with rfl | later
        · exact List.not_mem_nil
        · exact induction later
      next other =>
        cases split : pieces separator rest with
        | nil => exact absurd split (pieces_ne_nil separator rest)
        | cons first others =>
            rw [split] at member induction
            rcases List.mem_cons.1 member with rfl | later
            · rintro (_ | ⟨_, inside⟩)
              · exact other (beq_self_eq_true separator)
              · exact induction List.mem_cons_self inside
            · exact induction (List.mem_cons_of_mem first later)

theorem cut_append {left : List α} (absent : separator ∉ left) (right : List α) :
    cut separator (left ++ separator :: right) = some (left, right) := by
  induction left with
  | nil => simp [cut]
  | cons item left induction =>
      have different : (item == separator) = false := by
        simp only [beq_eq_false_iff_ne]
        rintro rfl
        exact absent List.mem_cons_self
      rw [List.cons_append, cut, if_neg (by simp [different]),
        induction fun member => absent (List.mem_cons_of_mem _ member)]
      rfl

theorem not_mem_cut {list left right : List α} (found : cut separator list = some (left, right)) :
    separator ∉ left := by
  induction list generalizing left with
  | nil => cases found
  | cons item rest induction =>
      rw [cut] at found
      split at found
      next =>
        cases found
        exact List.not_mem_nil
      next different =>
        obtain ⟨sides, further, same⟩ := Option.map_eq_some_iff.1 found
        cases same
        rintro (_ | ⟨_, later⟩)
        · exact different (beq_self_eq_true separator)
        · exact induction further later

theorem cut_alone {list : List α} (absent : separator ∉ list) : cut separator list = none := by
  cases found : cut separator list with
  | none => rfl
  | some sides =>
      refine absurd ?_ absent
      rw [cut_sound found]
      exact List.mem_append_right _ List.mem_cons_self

theorem erase_dups_snoc (list : List α) (item : α) :
    (list ++ [item]).eraseDups =
      if list.eraseDups.contains item then list.eraseDups else list.eraseDups ++ [item] := by
  rw [List.eraseDups_append]
  by_cases seen : item ∈ list
  · simp [List.removeAll, seen]
  · simp [List.removeAll, seen, List.eraseDups_cons]

theorem strip_start_append (start rest : List α) : stripStart start (start ++ rest) = some rest := by
  induction start with
  | nil => rfl
  | cons item start induction =>
      simp only [List.cons_append, stripStart, beq_self_eq_true, if_true]
      exact induction

theorem strip_start_iff {start list rest : List α} :
    stripStart start list = some rest ↔ list = start ++ rest := by
  constructor
  · intro stripped
    induction start generalizing list with
    | nil => exact Option.some.inj stripped
    | cons item start induction =>
        cases list with
        | nil => cases stripped
        | cons head tail =>
            simp only [stripStart] at stripped
            by_cases equal : (head == item) = true
            · rw [if_pos equal] at stripped
              rw [eq_of_beq equal, induction stripped, List.cons_append]
            · rw [if_neg equal] at stripped
              cases stripped
  · rintro rfl
    exact strip_start_append start rest

theorem strip_end_iff {ending list rest : List α} :
    stripEnd ending list = some rest ↔ list = rest ++ ending := by
  simp only [stripEnd, Option.map_eq_some_iff, strip_start_iff]
  constructor
  · rintro ⟨reversed, split, rfl⟩
    rw [← List.reverse_reverse list, split, List.reverse_append, List.reverse_reverse]
  · rintro rfl
    exact ⟨rest.reverse, List.reverse_append, List.reverse_reverse rest⟩

theorem occurs_in_iff {part list : List α} :
    occursIn part list = true ↔ ∃ before after, list = before ++ (part ++ after) := by
  induction list with
  | nil =>
      rw [occursIn, List.isEmpty_iff]
      constructor
      · rintro rfl
        exact ⟨[], [], rfl⟩
      · rintro ⟨before, after, whole⟩
        exact (List.append_eq_nil_iff.1 (List.append_eq_nil_iff.1 whole.symm).2).1
  | cons item rest induction =>
      rw [occursIn, Bool.or_eq_true, induction, Option.isSome_iff_exists]
      constructor
      · rintro (⟨after, stripped⟩ | ⟨before, after, rfl⟩)
        · have front : item :: rest = part ++ after := strip_start_iff.1 stripped
          exact ⟨[], after, front⟩
        · exact ⟨item :: before, after, rfl⟩
      · rintro ⟨before, after, whole⟩
        cases before with
        | nil => exact .inl ⟨after, strip_start_iff.2 whole⟩
        | cons first before => exact .inr ⟨before, after, (List.cons.inj whole).2⟩

end

namespace Text

theorem strip_prefix_iff {start text rest : String} :
    stripPrefix? start text = some rest ↔ text = start ++ rest := by
  simp only [stripPrefix?, Option.map_eq_some_iff, strip_start_iff, ← String.toList_inj,
    String.toList_append]
  constructor
  · rintro ⟨rest, split, whole⟩
    rw [split, ← whole, String.toList_ofList]
  · intro split
    exact ⟨rest.toList, split, String.toList_ofList⟩

theorem strip_suffix_iff {ending text rest : String} :
    stripSuffix? ending text = some rest ↔ text = rest ++ ending := by
  simp only [stripSuffix?, Option.map_eq_some_iff, strip_end_iff, ← String.toList_inj,
    String.toList_append]
  constructor
  · rintro ⟨rest, split, whole⟩
    rw [split, ← whole, String.toList_ofList]
  · intro split
    exact ⟨rest.toList, split, String.toList_ofList⟩

end Text

theorem drop_while_all {α : Type} {holds : α → Bool} {front : List α}
    (all : ∀ item ∈ front, holds item = true) (rest : List α) :
    (front ++ rest).dropWhile holds = rest.dropWhile holds := by
  induction front with
  | nil => rfl
  | cons item front induction =>
      rw [List.cons_append, List.dropWhile_cons_of_pos (all item List.mem_cons_self)]
      exact induction fun other member => all other (List.mem_cons_of_mem _ member)

theorem trim_padded {before after : List Char} (front : ∀ char ∈ before, isBlank char = true)
    (back : ∀ char ∈ after, isBlank char = true) (value : List Char) :
    trimBlank (before ++ value ++ after) = trimBlank value := by
  have start : (before ++ (value ++ after)).dropWhile isBlank =
      (value ++ after).dropWhile isBlank := drop_while_all front _
  unfold trimBlank
  rw [List.append_assoc, start]
  by_cases blank : ∀ char ∈ value, isBlank char = true
  · have gone : value.dropWhile isBlank = [] := by
      have := drop_while_all blank []
      simpa using this
    have ended : after.dropWhile isBlank = [] := by
      have := drop_while_all back []
      simpa using this
    rw [drop_while_all blank, gone, ended]
  · have kept : value.dropWhile isBlank ≠ [] := by
      intro gone
      exact blank (List.dropWhile_eq_nil_iff.1 gone)
    have joined : (value ++ after).dropWhile isBlank = value.dropWhile isBlank ++ after := by
      rw [List.dropWhile_append, if_neg (by simpa using kept)]
    have reversed : ∀ char ∈ after.reverse, isBlank char = true := by
      intro char member
      exact back char (List.mem_reverse.1 member)
    rw [joined, List.reverse_append, drop_while_all reversed]

theorem trim_solid {value : List Char} (solid : ∀ char ∈ value, isBlank char = false) :
    trimBlank value = value := by
  have kept {list : List Char} (none : ∀ char ∈ list, isBlank char = false) :
      list.dropWhile isBlank = list := by
    cases list with
    | nil => rfl
    | cons char rest => exact List.dropWhile_cons_of_neg (by simp [none char List.mem_cons_self])
  unfold trimBlank
  rw [kept solid, kept (fun char member => solid char (List.mem_reverse.1 member)),
    List.reverse_reverse]

theorem blank_words_go_solid {word : List Char} (solid : ∀ char ∈ word, isBlank char = false)
    (begun rest : List Char) :
    blankWords.go (word ++ rest) begun = blankWords.go rest (word.reverse ++ begun) := by
  induction word generalizing begun with
  | nil => rfl
  | cons char word induction =>
      rw [List.cons_append, blankWords.go, if_neg (by simp [solid char List.mem_cons_self]),
        induction fun other member => solid other (List.mem_cons_of_mem _ member)]
      simp

theorem blank_words_append {word : List Char} (filled : word ≠ [])
    (solid : ∀ char ∈ word, isBlank char = false) {blank : Char} (isBlank : isBlank blank = true)
    (rest : List Char) : blankWords (word ++ blank :: rest) = word :: blankWords rest := by
  rw [blankWords, blank_words_go_solid solid, blankWords.go, if_pos isBlank,
    if_neg (by simpa using filled)]
  simp [blankWords]

theorem blank_words_alone {word : List Char} (filled : word ≠ [])
    (solid : ∀ char ∈ word, isBlank char = false) : blankWords word = [word] := by
  have whole := blank_words_go_solid solid [] []
  rw [List.append_nil] at whole
  rw [blankWords, whole, blankWords.go, if_neg (by simpa using filled)]
  simp

def isDecimal (chars : List Char) : Bool :=
  !chars.isEmpty && chars.all fun char => (Numeral.digitValue? char).isSome

def decimalFrom : Nat → List Char → Nat
  | value, [] => value
  | value, char :: rest => decimalFrom (value * 10 + (char.toNat - 48)) rest

def decimalValue (chars : List Char) : Nat := decimalFrom 0 chars

theorem decimal_from_le (value : Nat) (chars : List Char) : value ≤ decimalFrom value chars := by
  induction chars generalizing value with
  | nil => exact Nat.le_refl _
  | cons char rest induction =>
      have grown (digit : Nat) : value ≤ value * 10 + digit := by omega
      exact Nat.le_trans (grown _) (induction (value * 10 + (char.toNat - 48)))

theorem decimal_char {chars : List Char} (decimal : isDecimal chars = true) {char : Char}
    (member : char ∈ chars) : '0' ≤ char ∧ char ≤ '9' := by
  simp only [isDecimal, Bool.and_eq_true, List.all_eq_true] at decimal
  have digit := decimal.2 char member
  unfold Numeral.digitValue? at digit
  split at digit
  next range => simpa using range
  next => cases digit

theorem decimal_solid {chars : List Char} (decimal : isDecimal chars = true) :
    ∀ char ∈ chars, isBlank char = false := by
  intro char member
  have range := decimal_char decimal member
  have low : '0'.toNat ≤ char.toNat := UInt32.le_iff_toNat_le.1 (Char.le_def.1 range.1)
  have high : char.toNat ≤ '9'.toNat := UInt32.le_iff_toNat_le.1 (Char.le_def.1 range.2)
  rw [show '0'.toNat = 48 from rfl] at low
  rw [show '9'.toNat = 57 from rfl] at high
  simp only [isBlank, whiteSpace, List.any_cons, List.any_nil, Bool.or_false, Bool.or_eq_false_iff,
    Bool.and_eq_false_iff, decide_eq_false_iff_not]
  omega

theorem digits_value {limit : Nat} {overflow : Numeral.Problem} {chars : List Char}
    (all : ∀ char ∈ chars, '0' ≤ char ∧ char ≤ '9') (value : Nat) (bounded : value ≤ limit) :
    Numeral.digits limit overflow value chars =
      if decimalFrom value chars ≤ limit then .ok (decimalFrom value chars)
      else .error overflow := by
  induction chars generalizing value with
  | nil =>
      have unfolded : decimalFrom value [] = value := rfl
      rw [unfolded, if_pos bounded, Numeral.digits]
  | cons char rest induction =>
      have digit : Numeral.digitValue? char = some (char.toNat - 48) := by
        have range := all char List.mem_cons_self
        simp only [Numeral.digitValue?, range.1, range.2, decide_true, Bool.and_self, if_true]
      have others : ∀ other ∈ rest, '0' ≤ other ∧ other ≤ '9' :=
        fun other member => all other (List.mem_cons_of_mem _ member)
      have unfolded : decimalFrom value (char :: rest) =
          decimalFrom (value * 10 + (char.toNat - 48)) rest := rfl
      simp only [Numeral.digits, digit]
      rw [unfolded]
      by_cases fits : value * 10 + (char.toNat - 48) ≤ limit
      · rw [if_pos fits, induction others _ fits]
      · have grown := decimal_from_le (value * 10 + (char.toNat - 48)) rest
        rw [if_neg fits, if_neg fun small => fits (Nat.le_trans grown small)]

/-- Digits are read as the number they stand for, if it is not too large. -/
theorem natural_decimal {chars : List Char} (decimal : isDecimal chars = true) (limit : Nat) :
    Numeral.natural limit chars =
      if decimalValue chars ≤ limit then .ok (decimalValue chars) else .error .tooLarge := by
  cases chars with
  | nil => cases decimal
  | cons char rest =>
      have range := decimal_char decimal List.mem_cons_self
      have unsigned : char ≠ '+' := by
        rintro rfl
        exact absurd range.1 (by decide)
      have plain : Numeral.natural limit (char :: rest) =
          Numeral.digits limit .tooLarge 0 (char :: rest) := by
        unfold Numeral.natural
        split
        next equal => cases equal
        next equal => cases equal; exact absurd rfl unsigned
        next equal => cases equal; exact absurd rfl unsigned
        next => rfl
      rw [plain, digits_value (fun other member => decimal_char decimal member) 0 (Nat.zero_le _)]
      rfl

theorem decimal_from_digits (value : Nat) (chars : List Char) :
    decimalFrom value chars = Nat.ofDigitChars 10 chars value := by
  induction chars generalizing value with
  | nil => rfl
  | cons char rest induction =>
      rw [Nat.ofDigitChars_cons, ← induction, Nat.mul_comm 10]
      rfl

theorem decimal_rendered (value : Nat) :
    isDecimal (toString value).toList = true ∧ decimalValue (toString value).toList = value := by
  rw [Nat.toString_eq_ofList_toDigits, String.toList_ofList]
  constructor
  · rw [isDecimal, Bool.and_eq_true, Bool.not_eq_true', List.isEmpty_eq_false_iff, List.all_eq_true]
    refine ⟨Nat.toDigits_ne_nil, fun char member => ?_⟩
    have digit := Nat.isDigit_of_mem_toDigits (by decide) (by decide) member
    have range : '0' ≤ char ∧ char ≤ '9' := by
      simpa [Char.isDigit, Char.le_def] using digit
    rw [Numeral.digitValue?, if_pos (by simpa using range)]
    rfl
  · rw [decimalValue, decimal_from_digits]
    exact Nat.ofDigitChars_ten_toDigits

namespace Numeral

theorem digits_le {limit value number : Nat} {overflow : Problem} {chars : List Char}
    (fits : value ≤ limit) (read : digits limit overflow value chars = .ok number) :
    number ≤ limit := by
  induction chars generalizing value with
  | nil =>
      cases read
      exact fits
  | cons char rest induction =>
      rw [digits] at read
      split at read
      next => cases read
      next =>
        split at read
        next fits => exact induction fits read
        next => cases read

theorem integer_range {limit : Nat} {chars : List Char} {value : Int}
    (read : integer limit chars = .ok value) : -(limit + 1 : Int) ≤ value ∧ value ≤ limit := by
  have mapped {limit : Nat} {overflow : Problem} {chars : List Char} {change : Nat → Int}
      (read : (digits limit overflow 0 chars).map change = .ok value) :
      ∃ number ≤ limit, value = change number := by
    cases inner : digits limit overflow 0 chars with
    | error problem =>
        rw [inner] at read
        cases read
    | ok number =>
        rw [inner] at read
        cases read
        exact ⟨number, digits_le (Nat.zero_le _) inner, rfl⟩
  unfold integer at read
  split at read
  · cases read
  · cases read
  · cases read
  · obtain ⟨number, fits, rfl⟩ := mapped read
    simp only [Int.ofNat_eq_natCast]
    omega
  · obtain ⟨number, fits, rfl⟩ := mapped read
    simp only [Int.ofNat_eq_natCast]
    omega
  · obtain ⟨number, fits, rfl⟩ := mapped read
    simp only [Int.ofNat_eq_natCast]
    omega

end Numeral

end StreamHttp
