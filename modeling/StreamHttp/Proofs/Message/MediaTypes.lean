import Mathlib.Data.List.DropRight
import StreamHttp.Message.Headers
import StreamHttp.Proofs.Text.Words

/-!
Media types that are written into a header and read again. Reading trims a value and then takes the
quotation marks off it, and writing puts none back. So a value that stood in quotation marks loses
the blanks that it begins or ends with, and every other media type comes back as it was.
-/

namespace StreamHttp

section

variable {α : Type}

/-- Neither the first nor the last item is one that something holds of. -/
def BareEnds (holds : α → Bool) (list : List α) : Prop :=
  (∀ item ∈ list.head?, holds item = false) ∧ ∀ item ∈ list.getLast?, holds item = false

instance (holds : α → Bool) (list : List α) : Decidable (BareEnds holds list) :=
  decidable_of_iff ((list.head?.all (!holds ·) && list.getLast?.all (!holds ·)) = true)
    (by unfold BareEnds; cases list.head? <;> cases list.getLast? <;> simp)

def stripEnds (holds : α → Bool) (list : List α) : List α :=
  (list.dropWhile holds).rdropWhile holds

variable (holds : α → Bool) (list : List α)

theorem strip_ends_inside : stripEnds holds list <:+: list :=
  (List.rdropWhile_prefix holds _).isInfix.trans (List.dropWhile_suffix holds).isInfix

theorem bare_strip_ends : BareEnds holds (stripEnds holds list) := by
  constructor
  · intro item first
    have front := List.head?_dropWhile_not holds list
    obtain ⟨rest, whole⟩ := List.rdropWhile_prefix holds (list.dropWhile holds)
    have head : (list.dropWhile holds).head? = some item := by
      rw [← whole, List.head?_append]
      exact congrArg (Option.or · rest.head?) first
    rw [head] at front
    exact front
  · intro item last
    have back := List.head?_dropWhile_not holds (list.dropWhile holds).reverse
    have head : ((list.dropWhile holds).reverse.dropWhile holds).head? = some item := by
      rw [← List.getLast?_reverse]
      exact last
    rw [head] at back
    exact back

variable {holds list}

theorem strip_ends_bare (bare : BareEnds holds list) : stripEnds holds list = list := by
  have front : list.dropWhile holds = list := by
    cases list with
    | nil => rfl
    | cons item rest => exact List.dropWhile_cons_of_neg (by simp [bare.1 item rfl])
  rw [stripEnds, front, List.rdropWhile_eq_self_iff]
  intro filled
  have last := bare.2 _ (List.getLast?_eq_some_getLast filled)
  rw [last]
  exact Bool.false_ne_true

theorem strip_ends_eq_iff : stripEnds holds list = list ↔ BareEnds holds list := by
  constructor
  · intro same
    rw [← same]
    exact bare_strip_ends holds list
  · exact strip_ends_bare

theorem strip_ends_map {change : α → α} (blind : holds ∘ change = holds) :
    stripEnds holds (list.map change) = (stripEnds holds list).map change := by
  simp only [stripEnds, List.rdropWhile, List.dropWhile_map, ← List.map_reverse, blind]

/-- What has been stripped of one thing comes through the stripping of another and that of the
first only where there is nothing to strip. -/
theorem strip_ends_again {inner : α → Bool} (bare : BareEnds holds list) :
    stripEnds holds (stripEnds inner list) = list ↔ BareEnds inner list := by
  rw [← strip_ends_eq_iff]
  constructor
  · intro same
    have outer := (strip_ends_inside holds (stripEnds inner list)).length_le
    rw [same] at outer
    exact (strip_ends_inside inner list).eq_of_length_le outer
  · intro same
    rw [same, strip_ends_bare bare]

end

namespace Text

/-- A text without blanks around it. -/
def Unpadded (text : String) : Prop := BareEnds isBlank text.toList

instance (text : String) : Decidable (Unpadded text) :=
  inferInstanceAs (Decidable (BareEnds isBlank text.toList))

theorem trim_chars (text : String) : (trim text).toList = stripEnds isBlank text.toList :=
  String.toList_ofList

theorem trim_eq_iff {text : String} : trim text = text ↔ Unpadded text := by
  rw [← String.toList_inj, trim_chars, strip_ends_eq_iff, Unpadded]

theorem unpadded_trim (text : String) : Unpadded (trim text) := by
  rw [Unpadded, trim_chars]
  exact bare_strip_ends isBlank text.toList

theorem lower_chars (text : String) : (asciiLower text).toList = text.toList.map Char.toLower :=
  String.toList_ofList

theorem lower_lower (text : String) : asciiLower (asciiLower text) = asciiLower text := by
  rw [← String.toList_inj, lower_chars, lower_chars, List.map_map]
  exact List.map_congr_left fun char _ => Case.to_lower_to_lower char

theorem is_blank_lower (char : Char) : isBlank char.toLower = isBlank char := by
  simp only [isBlank, whiteSpace, List.any_cons, List.any_nil, Case.to_nat_to_lower]
  split
  next letter => grind
  next => rfl

theorem unpadded_lower {text : String} (unpadded : Unpadded text) : Unpadded (asciiLower text) := by
  rw [← trim_eq_iff] at unpadded ⊢
  have blind : isBlank ∘ Char.toLower = isBlank := funext is_blank_lower
  rw [← String.toList_inj, trim_chars, lower_chars, strip_ends_map blind, ← trim_chars, unpadded]

theorem not_mem_lower {char : Char} (other : ¬(97 ≤ char.toNat ∧ char.toNat ≤ 122)) {text : String}
    (absent : char ∉ text.toList) : char ∉ (asciiLower text).toList := by
  rw [lower_chars]
  intro member
  obtain ⟨letter, listed, rfl⟩ := List.mem_map.1 member
  have kept : letter.toLower = letter := by
    apply Char.toNat_inj.1
    rw [Case.to_nat_to_lower] at other ⊢
    split
    next capital => rw [if_pos capital] at other; omega
    next => rfl
  exact absent (kept.symm ▸ listed)

theorem not_mem_trim {char : Char} {text : String} (absent : char ∉ text.toList) :
    char ∉ (trim text).toList := by
  rw [trim_chars]
  exact fun member => absent ((strip_ends_inside isBlank text.toList).subset member)

end Text

namespace MediaType

def Unquoted (text : String) : Prop := BareEnds (· == '"') text.toList

theorem trim_quotes_chars (text : String) :
    (trimQuotes text).toList = stripEnds (· == '"') text.toList :=
  String.toList_ofList

theorem trim_again {value : String} (unquoted : Unquoted value) :
    trimQuotes (Text.trim value) = value ↔ Text.Unpadded value := by
  rw [← String.toList_inj, trim_quotes_chars, Text.trim_chars]
  exact strip_ends_again unquoted

structure Spelled (parameter : String × String) : Prop where
  undivided : ';' ∉ parameter.1.toList
  unassigned : '=' ∉ parameter.1.toList
  unpadded : Text.Unpadded parameter.1
  lower : Text.asciiLower parameter.1 = parameter.1
  single : ';' ∉ parameter.2.toList
  unquoted : Unquoted parameter.2

structure Readable (media : MediaType) : Prop where
  undivided : ';' ∉ media.essence.toList
  unpadded : Text.Unpadded media.essence
  lower : Text.asciiLower media.essence = media.essence
  halves : (halves? media.essence).isSome = true
  parameters : ∀ parameter ∈ media.parameters, Spelled parameter

theorem spelled_parameter {piece : String} (single : ';' ∉ piece.toList)
    {parameter : String × String} (read : parameter? piece = some parameter) :
    Spelled parameter := by
  obtain ⟨sides, cutPiece, rfl⟩ := Option.map_eq_some_iff.1 read
  obtain ⟨⟨name, value⟩, found, rfl⟩ := Option.map_eq_some_iff.1 cutPiece
  have whole := cut_sound found
  have unassigned : '=' ∉ name := not_mem_cut found
  rw [whole] at single
  simp only [List.mem_append, List.mem_cons, not_or] at single
  have nameless : ';' ∉ (String.ofList name).toList := by
    rw [String.toList_ofList]
    exact single.1
  have valueless : ';' ∉ (String.ofList value).toList := by
    rw [String.toList_ofList]
    exact single.2.2
  refine ⟨?_, ?_, ?_, ?_, ?_, ?_⟩
  · exact Text.not_mem_lower (by decide) (Text.not_mem_trim nameless)
  · refine Text.not_mem_lower (by decide) (Text.not_mem_trim ?_)
    rw [String.toList_ofList]
    exact unassigned
  · exact Text.unpadded_lower (Text.unpadded_trim _)
  · exact Text.lower_lower _
  · rw [trim_quotes_chars]
    exact fun member =>
      Text.not_mem_trim valueless ((strip_ends_inside _ _).subset member)
  · rw [Unquoted, trim_quotes_chars]
    exact bare_strip_ends _ _

theorem parse_readable {text : String} {media : MediaType} (parsed : parse? text = some media) :
    media.Readable := by
  have single {piece : String} (listed : piece ∈ Text.piecesOf ';' text) : ';' ∉ piece.toList := by
    obtain ⟨chars, member, rfl⟩ := List.mem_map.1 listed
    rw [String.toList_ofList]
    exact not_mem_pieces member
  rw [parse?] at parsed
  cases cutUp : Text.piecesOf ';' text with
  | nil => rw [cutUp] at parsed; cases parsed
  | cons first others =>
      rw [cutUp] at parsed single
      simp only at parsed
      split at parsed
      next halved =>
        rw [← Option.some.inj parsed]
        refine ⟨?_, ?_, Text.lower_lower _, halved, ?_⟩
        · exact Text.not_mem_lower (by decide) (Text.not_mem_trim (single List.mem_cons_self))
        · exact Text.unpadded_lower (Text.unpadded_trim first)
        · intro parameter listed
          obtain ⟨piece, member, read⟩ := List.mem_filterMap.1 listed
          exact spelled_parameter (single (List.mem_cons_of_mem first member)) read
      next => cases parsed

def rereadParameter (parameter : String × String) : String × String :=
  (parameter.1, trimQuotes (Text.trim parameter.2))

/-- What a media type is read as from what it is written as. -/
def reread (media : MediaType) : MediaType :=
  { media with parameters := media.parameters.map rereadParameter }

def assignment (parameter : String × String) : String := parameter.1 ++ "=" ++ parameter.2

theorem parameter_assignment {parameter : String × String} (spelled : Spelled parameter) :
    parameter? (assignment parameter) = some (rereadParameter parameter) := by
  have split : Text.cutAt '=' (assignment parameter) = some parameter := by
    have chars : (assignment parameter).toList =
        parameter.1.toList ++ '=' :: parameter.2.toList := by
      simp [assignment]
    rw [Text.cutAt, chars, cut_append spelled.unassigned, Option.map_some]
    simp only [String.ofList_toList]
  rw [parameter?, split, Option.map_some, Text.trim_eq_iff.2 spelled.unpadded, spelled.lower,
    rereadParameter]

theorem render_chars (essence : String) (parameters : List (String × String)) :
    (render ⟨essence, parameters⟩).toList =
      essence.toList ++ parameters.flatMap fun parameter => ';' :: (assignment parameter).toList := by
  induction parameters generalizing essence with
  | nil => simp [render]
  | cons parameter parameters induction =>
      have further := induction (essence ++ ";" ++ parameter.1 ++ "=" ++ parameter.2)
      have begun : render ⟨essence, parameter :: parameters⟩ =
          render ⟨essence ++ ";" ++ parameter.1 ++ "=" ++ parameter.2, parameters⟩ := rfl
      rw [begun, further]
      simp [assignment]

theorem pieces_render {essence : String} (undivided : ';' ∉ essence.toList)
    {parameters : List (String × String)}
    (single : ∀ parameter ∈ parameters, ';' ∉ (assignment parameter).toList) :
    Text.piecesOf ';' (render ⟨essence, parameters⟩) = essence :: parameters.map assignment := by
  rw [Text.piecesOf, render_chars]
  induction parameters generalizing essence with
  | nil =>
      rw [List.flatMap_nil, List.append_nil, pieces_alone undivided]
      simp
  | cons parameter parameters induction =>
      have further := induction (single parameter List.mem_cons_self)
        fun other member => single other (List.mem_cons_of_mem _ member)
      rw [List.flatMap_cons, List.cons_append, pieces_append undivided, List.map_cons, further]
      simp

theorem Readable.parse_render {media : MediaType} (readable : media.Readable) :
    parse? media.render = some media.reread := by
  have single : ∀ parameter ∈ media.parameters, ';' ∉ (assignment parameter).toList := by
    intro parameter listed
    have spelled := readable.parameters parameter listed
    simp [assignment, spelled.undivided, spelled.single]
  have read : (media.parameters.map assignment).filterMap parameter? =
      media.parameters.map rereadParameter := by
    rw [List.filterMap_map, ← List.filterMap_eq_map]
    exact List.filterMap_congr fun parameter listed =>
      parameter_assignment (readable.parameters parameter listed)
  rw [parse?, pieces_render readable.undivided single]
  simp only [Text.trim_eq_iff.2 readable.unpadded, readable.lower, readable.halves, if_true, read,
    reread]

/-- A value is kept by one more reading where no blanks are around it, and only there. -/
theorem Readable.reread_eq_iff {media : MediaType} (readable : media.Readable) :
    media.reread = media ↔ ∀ parameter ∈ media.parameters, Text.Unpadded parameter.2 := by
  have kept {parameter : String × String} (listed : parameter ∈ media.parameters) :
      rereadParameter parameter = parameter ↔ Text.Unpadded parameter.2 := by
    rw [← trim_again (readable.parameters parameter listed).unquoted, rereadParameter,
      Prod.ext_iff]
    exact and_iff_right rfl
  have whole : media.reread = media ↔
      media.parameters.map rereadParameter = media.parameters.map id := by
    rw [List.map_id]
    constructor
    · exact congrArg MediaType.parameters
    · intro same
      rw [reread, same]
  rw [whole, List.map_inj_left]
  exact forall₂_congr fun parameter listed => kept listed

/-- Reading gives a media type back from what it is written as, in a text as in headers. -/
def ReadsBack (media : MediaType) : Prop :=
  parse? media.render = some media ∧
    ∀ headers : Headers, (headers.setContentType media).contentType? = some media

theorem content_type_set (headers : Headers) (media : MediaType) :
    (headers.setContentType media).contentType? = parse? media.render := by
  have held : (headers.setContentType media).getAll "Content-Type" = [media.render] :=
    Multimap.get_all_set_same headers.fields _ media.render
  rw [Headers.contentType?, Headers.get?, held]
  rfl

theorem Readable.reads_back_iff {media : MediaType} (readable : media.Readable) :
    media.ReadsBack ↔ ∀ parameter ∈ media.parameters, Text.Unpadded parameter.2 := by
  rw [← readable.reread_eq_iff, ReadsBack]
  simp only [content_type_set, readable.parse_render, Option.some.injEq]
  exact and_iff_left_of_imp fun same _ => same

theorem Readable.with_charset {media : MediaType} (readable : media.Readable) {charset : String}
    (single : ';' ∉ charset.toList) (unquoted : Unquoted charset) :
    (media.withCharset charset).Readable := by
  have undivided : ';' ∉ "charset".toList := by decide
  have unassigned : '=' ∉ "charset".toList := by decide
  have unpadded : Text.Unpadded "charset" := by decide
  have lower : Text.asciiLower "charset" = "charset" := by decide
  refine { readable with parameters := ?_ }
  intro parameter listed
  rcases List.mem_append.1 listed with kept | added
  · exact readable.parameters parameter (List.mem_filter.1 kept).1
  · rw [List.mem_singleton.1 added]
    exact ⟨undivided, unassigned, unpadded, lower, single, unquoted⟩

theorem unquoted_of_not_mem {text : String} (absent : '"' ∉ text.toList) : Unquoted text := by
  have other {char : Char} (listed : char ∈ text.toList) : (char == '"') = false := by
    simp only [beq_eq_false_iff_ne]
    rintro rfl
    exact absent listed
  exact ⟨fun _ first => other (List.mem_of_head? first), fun _ last => other (List.mem_of_getLast? last)⟩

/-- A media type that was read can be written and read again. It comes back, from a text as from
headers, exactly if none of its values begins or ends with a blank, which is to say that none stood
in quotation marks with a blank next to them. The same holds once a charset was set, for the values
that are left then. -/
theorem reads_back_unpadded {text : String} {media : MediaType} (parsed : parse? text = some media) :
    parse? media.render = some media.reread ∧
      (media.ReadsBack ↔ ∀ parameter ∈ media.parameters, Text.Unpadded parameter.2) ∧
      ∀ charset : String, ';' ∉ charset.toList → '"' ∉ charset.toList → Text.Unpadded charset →
        ((media.withCharset charset).ReadsBack ↔
          ∀ parameter ∈ media.parameters,
            Text.sameIgnoringCase parameter.1 "charset" = false → Text.Unpadded parameter.2) := by
  have readable := parse_readable parsed
  refine ⟨readable.parse_render, readable.reads_back_iff, fun charset single bare unpadded => ?_⟩
  rw [(readable.with_charset single (unquoted_of_not_mem bare)).reads_back_iff]
  simp only [withCharset, List.forall_mem_append, List.forall_mem_singleton, List.mem_filter,
    Bool.not_eq_true', and_imp]
  exact and_iff_left unpadded

/-- Quotation marks, blanks outside of them, an equals sign and names that are empty or repeated do
no harm. -/
theorem reads_back_unpadded_quoted :
    let text := " Text/Plain ;Charset=\"ISO-8859-1\"; q = \"a=b\" ;=;skipped;q=\"\""
    let media : MediaType :=
      ⟨"text/plain", [("charset", "ISO-8859-1"), ("q", "a=b"), ("", ""), ("q", "")]⟩
    parse? text = some media ∧ media.ReadsBack ∧ (media.withCharset "utf-8").ReadsBack := by
  intro text media
  have parsed : parse? text = some media := by decide
  obtain ⟨_, back, charset⟩ := reads_back_unpadded parsed
  refine ⟨parsed, back.2 (by decide), (charset "utf-8" ?_ ?_ ?_).2 (by decide)⟩
  · decide
  · decide
  · decide

/-- The blanks inside of quotation marks are lost. -/
theorem padded_value_trimmed :
    parse? "a/b;c=\" x \"" = some ⟨"a/b", [("c", " x ")]⟩ ∧
      render ⟨"a/b", [("c", " x ")]⟩ = "a/b;c= x " ∧
      parse? "a/b;c= x " = some ⟨"a/b", [("c", "x")]⟩ ∧
      (Headers.empty.setContentType ⟨"a/b", [("c", " x ")]⟩).contentType? =
        some ⟨"a/b", [("c", "x")]⟩ ∧
      ¬ReadsBack ⟨"a/b", [("c", " x ")]⟩ := by
  have parsed : parse? "a/b;c=\" x \"" = some ⟨"a/b", [("c", " x ")]⟩ := by decide
  have again : parse? "a/b;c= x " = some ⟨"a/b", [("c", "x")]⟩ := by decide
  have written : render ⟨"a/b", [("c", " x ")]⟩ = "a/b;c= x " := by decide
  refine ⟨parsed, written, again, ?_, ?_⟩
  · rw [content_type_set, written, again]
  · rintro ⟨same, _⟩
    rw [written, again] at same
    revert same
    decide

end MediaType

end StreamHttp
