import StreamHttp.Message.Headers

/-!
What headers hold for a name: the values of all pairs whose name has the same canonical spelling, in
the order of the pairs. Names have the same canonical spelling where they differ only in case.
-/

namespace StreamHttp

namespace Multimap

theorem find_erased {name asked : String} (different : name ≠ asked)
    (entries : List (String × List String)) :
    (entries.filter fun entry => !(entry.1 == name)).find? (·.1 == asked) =
      entries.find? (·.1 == asked) := by
  induction entries with
  | nil => rfl
  | cons entry rest induction =>
      by_cases erased : entry.1 = name
      · have dropped : (entry.1 == asked) = false := by
          rw [erased]
          simpa using different
        rw [List.filter_cons_of_neg (by simp [erased]), List.find?_cons, dropped]
        exact induction
      · rw [List.filter_cons_of_pos (by simp [erased]), List.find?_cons, List.find?_cons,
          induction]

theorem get_all_put (map : Multimap) (name value asked : String) :
    (map.put name value).getAll asked =
      if name = asked then value :: map.getAll asked else map.getAll asked := by
  by_cases same : name = asked
  · subst same
    simp [put, getAll, values?]
  · have other : (name == asked) = false := by simpa using same
    rw [if_neg same]
    simp only [put, getAll, values?, erase, List.find?_cons, other, find_erased same]

theorem get_all_of_pairs (pairs : List (String × String)) (name : String) :
    (ofPairs pairs).getAll name = (pairs.filter fun pair => pair.1 == name).map Prod.snd := by
  induction pairs with
  | nil => rfl
  | cons pair rest induction =>
      rw [ofPairs, List.foldr_cons, ← ofPairs, get_all_put, induction]
      by_cases same : pair.1 = name
      · rw [if_pos same, List.filter_cons_of_pos (by simpa using same), List.map_cons]
      · rw [if_neg same, List.filter_cons_of_neg (by simpa using same)]

end Multimap

theorem canonical_chars_lower (upper : Bool) (chars : List Char) :
    canonicalChars upper (chars.map Char.toLower) = canonicalChars upper chars := by
  induction chars generalizing upper with
  | nil => rfl
  | cons char rest induction =>
      simp only [List.map_cons, canonicalChars, Case.to_upper_to_lower, Case.to_lower_to_lower,
        Case.to_lower_hyphen, induction]

theorem canonical_name_same {left right : String}
    (same : Text.sameIgnoringCase left right = true) :
    canonicalName left = canonicalName right := by
  have lowered : left.toList.map Char.toLower = right.toList.map Char.toLower :=
    String.ofList_injective (eq_of_beq same)
  rw [canonicalName, ← canonical_chars_lower, lowered, canonical_chars_lower]
  rfl

theorem lower_canonical_chars (upper : Bool) (chars : List Char) :
    (canonicalChars upper chars).map Char.toLower = chars.map Char.toLower := by
  induction chars generalizing upper with
  | nil => rfl
  | cons char rest induction =>
      cases upper with
      | true =>
          simp only [canonicalChars, if_true, List.map_cons, Case.to_lower_to_upper, induction]
      | false =>
          simp only [canonicalChars, Bool.false_eq_true, if_false, List.map_cons,
            Case.to_lower_to_lower, induction]

/-- The canonical spelling tells names apart that differ in more than case. -/
theorem canonical_name_eq_iff (left right : String) :
    canonicalName left = canonicalName right ↔ Text.sameIgnoringCase left right = true := by
  constructor
  · intro same
    have spelled := congrArg (List.map Char.toLower) (String.ofList_injective same)
    rw [lower_canonical_chars, lower_canonical_chars] at spelled
    rw [Text.sameIgnoringCase, Text.asciiLower, Text.asciiLower, spelled]
    exact beq_self_eq_true _
  · exact canonical_name_same

namespace Headers

theorem mem_names_of_pairs {headers : Headers} {pair : String × String}
    (member : pair ∈ headers.pairs) : pair.1 ∈ headers.names := by
  obtain ⟨entry, listed, paired⟩ := List.mem_flatMap.1 member
  obtain ⟨value, _, rfl⟩ := List.mem_map.1 paired
  exact List.mem_map_of_mem listed

theorem get_all_of_pairs (pairs : List (String × String)) (name : String) :
    (ofPairs pairs).getAll name =
      (pairs.filter fun pair => canonicalName pair.1 == canonicalName name).map Prod.snd := by
  rw [getAll, ofPairs, Multimap.get_all_of_pairs, List.filter_map, List.map_map]
  rfl

end Headers

end StreamHttp
