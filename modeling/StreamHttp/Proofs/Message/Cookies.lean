import Mathlib.Data.List.Basic
import StreamHttp.Exchange.Request
import StreamHttp.Proofs.Message.Headers
import StreamHttp.Proofs.Text.Words

/-!
Cookie headers that were put together from pairs. What separates two pairs begins with a character
that it does not end with, so neither the end of one pair nor the beginning of the next can make a
separator together with a part of the one between them: a header comes apart into the pieces it was
made of. Of a name that is given again the last value counts, in the place of the first.
-/

namespace StreamHttp

/-- What stands between the separators of a Cookie header. -/
inductive CookiePiece where
  | pair (name value : String)
  | stray (text : String)
  deriving DecidableEq, Repr

namespace CookiePiece

def render : CookiePiece → String
  | pair name value => name ++ "=" ++ value
  | stray text => text

/-- A pair has a name that ends where its value begins; anything else has no name, or nothing that
would end it. -/
def Legible : CookiePiece → Prop
  | pair name _ => name ≠ "" ∧ '=' ∉ name.toList
  | stray text => '=' ∉ text.toList ∨ text.toList.head? = some '='

/-- A piece that can stand in a header without being taken for something else. -/
def Wellformed (piece : CookiePiece) : Prop :=
  piece.Legible ∧ Text.contains "; " piece.render = false

instance : DecidablePred Legible
  | pair name _ => inferInstanceAs (Decidable (name ≠ "" ∧ '=' ∉ name.toList))
  | stray text => inferInstanceAs (Decidable ('=' ∉ text.toList ∨ text.toList.head? = some '='))

instance (piece : CookiePiece) : Decidable piece.Wellformed :=
  inferInstanceAs (Decidable (piece.Legible ∧ Text.contains "; " piece.render = false))

def pair? : CookiePiece → Option (String × String)
  | pair name value => some (name, value)
  | stray _ => none

def line (pieces : List CookiePiece) : String := Text.joinWith "; " (pieces.map render)

def pairs (headers : List (List CookiePiece)) : List (String × String) :=
  headers.flatten.filterMap pair?

end CookiePiece

namespace Cookies

theorem cut_pairs_cons {char : Char} {rest first : List Char} {others : List (List Char)}
    (apart : char = ';' → ∀ tail, rest ≠ ' ' :: tail) (found : cutPairs rest = first :: others) :
    cutPairs (char :: rest) = (char :: first) :: others := by
  rw [cutPairs.eq_3 char rest fun tail semicolon space => apart semicolon tail space, found]

theorem cut_pairs_front {piece ending : List Char} {others : List (List Char)}
    (single : occursIn [';', ' '] piece = false) (solid : ∀ tail, ending ≠ ' ' :: tail)
    (ended : cutPairs ending = [] :: others) : cutPairs (piece ++ ending) = piece :: others := by
  induction piece with
  | nil => exact ended
  | cons char rest induction =>
      simp only [occursIn, Bool.or_eq_false_iff, Option.isSome_eq_false_iff,
        Option.isNone_iff_eq_none] at single
      refine cut_pairs_cons (fun semicolon tail space => ?_) (induction single.2)
      subst semicolon
      cases rest with
      | nil => exact solid tail space
      | cons next rest =>
          obtain ⟨rfl, _⟩ := List.cons.inj space
          cases single.1

theorem cut_pairs_intercalate {all : List (List Char)} (filled : all ≠ [])
    (single : ∀ piece ∈ all, occursIn [';', ' '] piece = false) :
    cutPairs ([';', ' '].intercalate all) = all := by
  induction all with
  | nil => exact absurd rfl filled
  | cons piece rest induction =>
      have first := single piece List.mem_cons_self
      cases rest with
      | nil =>
          have alone : cutPairs (piece ++ []) = [piece] :=
            cut_pairs_front first (fun _ => (List.cons_ne_nil _ _).symm) rfl
          rw [List.intercalate_singleton, ← alone, List.append_nil]
      | cons second rest =>
          have further := induction (List.cons_ne_nil second rest)
            fun other member => single other (List.mem_cons_of_mem piece member)
          rw [List.intercalate_cons_cons, List.append_assoc]
          refine cut_pairs_front first (fun tail space => ?_) ?_
          · cases space
          · exact congrArg (List.cons []) further

theorem pair_rendered {piece : CookiePiece} (legible : piece.Legible) :
    pair? piece.render.toList =
      piece.pair?.map fun pair => ({ name := pair.1, value := pair.2 } : Cookie) := by
  cases piece with
  | pair name value =>
      obtain ⟨named, unassigned⟩ := legible
      have filled : name.toList ≠ [] := fun empty => named (String.toList_eq_nil_iff.1 empty)
      have split : cut '=' (CookiePiece.pair name value).render.toList =
          some (name.toList, value.toList) := by
        rw [← cut_append unassigned]
        simp [CookiePiece.render]
      rw [pair?, split]
      cases spelled : name.toList with
      | nil => exact absurd spelled filled
      | cons char rest =>
          simp only [← spelled, String.ofList_toList]
          rfl
  | stray text =>
      rcases legible with unassigned | nameless
      · rw [CookiePiece.render, pair?, cut_alone unassigned]
        rfl
      · obtain ⟨value, chars⟩ := List.head?_eq_some_iff.1 nameless
        rw [CookiePiece.render, pair?, chars]
        rfl

theorem read_line {pieces : List CookiePiece} (wellformed : ∀ piece ∈ pieces, piece.Wellformed) :
    (cutPairs (CookiePiece.line pieces).toList).filterMap pair? =
      (pieces.filterMap CookiePiece.pair?).map fun pair =>
        ({ name := pair.1, value := pair.2 } : Cookie) := by
  cases pieces with
  | nil => rfl
  | cons first others =>
      have chars : (CookiePiece.line (first :: others)).toList =
          [';', ' '].intercalate ((first :: others).map fun piece => piece.render.toList) := by
        rw [CookiePiece.line, Text.joinWith, String.toList_intercalate, List.map_map]
        rfl
      have single : ∀ text ∈ (first :: others).map fun piece => piece.render.toList,
          occursIn [';', ' '] text = false := by
        intro text listed
        obtain ⟨piece, member, rfl⟩ := List.mem_map.1 listed
        exact (wellformed piece member).2
      rw [chars, cut_pairs_intercalate (by simp) single, List.filterMap_map,
        List.map_filterMap]
      exact List.filterMap_congr fun piece member => pair_rendered (wellformed piece member).1

theorem names_replace (cookie : Cookie) (list : List Cookie) :
    (replace cookie list).map Cookie.name =
      if (list.map Cookie.name).contains cookie.name then list.map Cookie.name
      else list.map Cookie.name ++ [cookie.name] := by
  induction list with
  | nil => rfl
  | cons other rest induction =>
      rw [replace]
      by_cases same : other.name = cookie.name
      · simp [same]
      · have apart : (cookie.name == other.name) = false := by simpa using Ne.symm same
        rw [if_neg (by simpa using same), List.map_cons, induction, List.map_cons,
          List.contains_cons, apart, Bool.false_or]
        split
        · rfl
        · rfl

theorem find_replace (cookie : Cookie) (list : List Cookie) (asked : String) :
    (replace cookie list).find? (·.name == asked) =
      if cookie.name = asked then some cookie else list.find? (·.name == asked) := by
  induction list with
  | nil =>
      rw [replace, List.find?_singleton]
      simp
  | cons other rest induction =>
      rw [replace]
      by_cases same : other.name = cookie.name
      · rw [if_pos (by simpa using same), List.find?_cons, List.find?_cons, same]
        by_cases own : cookie.name = asked
        · simp [own]
        · have apart : (cookie.name == asked) = false := by simpa using own
          rw [apart, if_neg own]
      · rw [if_neg (by simpa using same), List.find?_cons, List.find?_cons, induction]
        by_cases own : cookie.name = asked
        · have apart : (other.name == asked) = false := by
            rw [← own]
            simpa using same
          rw [apart, if_pos own]
        · rw [if_neg own, if_neg own]

def last? (pairs : List (String × String)) (name : String) : Option Cookie :=
  (pairs.reverse.find? (·.1 == name)).map fun pair => { name := pair.1, value := pair.2 }

structure Reflects (cookies : Cookies) (pairs : List (String × String)) : Prop where
  names : cookies.list.map Cookie.name = (pairs.map Prod.fst).eraseDups
  once : (cookies.list.map Cookie.name).Nodup
  values : ∀ asked, cookies.get? asked = last? pairs asked

variable {cookies : Cookies} {pairs : List (String × String)}

theorem Reflects.put (reflects : cookies.Reflects pairs) (pair : String × String) :
    (cookies.put { name := pair.1, value := pair.2 }).Reflects (pairs ++ [pair]) where
  names := by
    rw [Cookies.put, names_replace, reflects.names, List.map_append, List.map_singleton,
      erase_dups_snoc]
  once := by
    rw [Cookies.put, names_replace]
    split
    next => exact reflects.once
    next absent =>
      rw [List.nodup_append]
      refine ⟨reflects.once, List.pairwise_singleton _ _, ?_⟩
      rintro name listed other last rfl
      rw [List.mem_singleton.1 last] at listed
      exact absent (List.contains_iff_mem.2 listed)
  values asked := by
    rw [get?, Cookies.put, find_replace, last?, List.reverse_append, List.reverse_singleton,
      List.singleton_append, List.find?_cons]
    by_cases own : pair.1 = asked
    · subst own
      rw [if_pos rfl, beq_self_eq_true]
      rfl
    · rw [if_neg own, beq_false_of_ne own]
      exact reflects.values asked

theorem Reflects.fold (reflects : cookies.Reflects pairs) (more : List (String × String)) :
    ((more.map fun pair => ({ name := pair.1, value := pair.2 } : Cookie)).foldl Cookies.put
      cookies).Reflects (pairs ++ more) := by
  induction more generalizing cookies pairs with
  | nil =>
      rw [List.append_nil]
      exact reflects
  | cons pair more induction =>
      have behind := induction (reflects.put pair)
      rw [List.append_assoc, List.singleton_append] at behind
      exact behind

theorem reflects_lines {headers : List (List CookiePiece)}
    (wellformed : ∀ pieces ∈ headers, ∀ piece ∈ pieces, piece.Wellformed) :
    (parse (headers.map CookiePiece.line)).Reflects (CookiePiece.pairs headers) := by
  have read : (headers.map CookiePiece.line).flatMap
      (fun header => (cutPairs header.toList).filterMap pair?) =
        (CookiePiece.pairs headers).map fun pair =>
          ({ name := pair.1, value := pair.2 } : Cookie) := by
    rw [CookiePiece.pairs, ← List.flatMap_id, List.filterMap_flatMap, List.map_flatMap, List.flatMap_map]
    exact List.flatMap_congr fun pieces listed => read_line (wellformed pieces listed)
  have none : ({} : Cookies).Reflects [] := ⟨rfl, List.nodup_nil, fun _ => rfl⟩
  rw [parse, read]
  exact none.fold (CookiePiece.pairs headers)

/-- Where no name is there twice, each cookie is found by its name. -/
theorem find_listed {list : List Cookie} (once : (list.map Cookie.name).Nodup) {cookie : Cookie}
    (listed : cookie ∈ list) : list.find? (·.name == cookie.name) = some cookie := by
  induction list with
  | nil => exact absurd listed List.not_mem_nil
  | cons other rest induction =>
      rw [List.map_cons, List.nodup_cons] at once
      rcases List.mem_cons.1 listed with rfl | later
      · exact List.find?_cons_of_pos (beq_self_eq_true _)
      · have apart : (other.name == cookie.name) = false := by
          rw [beq_eq_false_iff_ne]
          intro same
          exact once.1 (same ▸ List.mem_map_of_mem later)
        rw [List.find?_cons, apart]
        exact induction once.2 later

/-- Pairs that are written into Cookie headers, in any number of headers and with anything between
them that is no pair, are read as they were meant: every name once, in the order of their first
occurrences, with the last value that was given to it. So they are in the head of a request, however
its headers are spelled and whatever other headers it has. -/
theorem parse_lines {headers : List (List CookiePiece)}
    (wellformed : ∀ pieces ∈ headers, ∀ piece ∈ pieces, piece.Wellformed) :
    let cookies := parse (headers.map CookiePiece.line)
    let pairs := CookiePiece.pairs headers
    cookies.list.map Cookie.name = (pairs.map Prod.fst).eraseDups ∧
      (cookies.list.map Cookie.name).Nodup ∧
      (∀ asked, cookies.get? asked = last? pairs asked) ∧
      (∀ cookie ∈ cookies.list, last? pairs cookie.name = some cookie) ∧
      ∀ (method : Method) (target : Target) (fields : List (String × String)),
        (fields.filter fun field => Text.sameIgnoringCase field.1 "Cookie").map Prod.snd =
            headers.map CookiePiece.line →
          (Head.make method target (Headers.ofPairs fields)).cookies = cookies := by
  intro cookies pairs
  have reflects : cookies.Reflects pairs := reflects_lines wellformed
  refine ⟨reflects.names, reflects.once, reflects.values, fun cookie listed => ?_,
    fun method target fields carried => ?_⟩
  · rw [← reflects.values]
    exact find_listed reflects.once listed
  · have named : (fun field : String × String => canonicalName field.1 == canonicalName "Cookie") =
        fun field => Text.sameIgnoringCase field.1 "Cookie" := by
      funext field
      rw [Bool.eq_iff_iff, beq_iff_eq]
      exact canonical_name_eq_iff field.1 "Cookie"
    rw [Head.make, Headers.get_all_of_pairs, named, carried]

/-- Semicolons and blanks at the borders of the pairs, a name that is given twice, and pieces that
are no pairs. -/
theorem parse_lines_repeated :
    let headers : List (List CookiePiece) :=
      [[.pair "a" "1;", .stray "", .pair " b" "x = y"], [.stray "none", .pair "a" "2", .stray "=z"]]
    let fields :=
      [("cookie", "a=1;; ;  b=x = y"), ("Accept", "a=3"), ("COOKIE", "none; a=2; =z")]
    (∀ pieces ∈ headers, ∀ piece ∈ pieces, piece.Wellformed) ∧
      headers.map CookiePiece.line = ["a=1;; ;  b=x = y", "none; a=2; =z"] ∧
      (parse ["a=1;; ;  b=x = y", "none; a=2; =z"]).list.map Cookie.name = ["a", " b"] ∧
      (parse ["a=1;; ;  b=x = y", "none; a=2; =z"]).get? "a" =
        some { name := "a", value := "2" } ∧
      (parse ["a=1;; ;  b=x = y", "none; a=2; =z"]).get? " b" =
        some { name := " b", value := "x = y" } ∧
      (Head.make "GET" { path := "/" } (Headers.ofPairs fields)).cookies =
        parse ["a=1;; ;  b=x = y", "none; a=2; =z"] := by
  intro headers fields
  have written : headers.map CookiePiece.line = ["a=1;; ;  b=x = y", "none; a=2; =z"] := by decide
  have wellformed : ∀ pieces ∈ headers, ∀ piece ∈ pieces, piece.Wellformed := by decide +kernel
  obtain ⟨names, _, values, _, heads⟩ := parse_lines wellformed
  rw [written] at names values heads
  refine ⟨wellformed, written, ?_, ?_, ?_, ?_⟩
  · exact names.trans (by decide)
  · exact (values "a").trans (by decide)
  · exact (values " b").trans (by decide)
  · exact heads "GET" { path := "/" } fields (by decide)

end Cookies

end StreamHttp
