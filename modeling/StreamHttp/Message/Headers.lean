import StreamHttp.Message.MediaType
import StreamHttp.Message.Multimap
import StreamHttp.Text.Case
import StreamHttp.Text.Numeral

/-!
Message headers. Names that differ only in the case of their letters are one name, kept in its
canonical spelling: the first letter and every letter behind a hyphen is upper case.
-/

namespace StreamHttp

def canonicalChars : Bool → List Char → List Char
  | _, [] => []
  | upper, char :: rest =>
      (if upper then char.toUpper else char.toLower) :: canonicalChars (char == '-') rest

def canonicalName (name : String) : String := String.ofList (canonicalChars true name.toList)

theorem canonical_chars_twice (upper : Bool) (chars : List Char) :
    canonicalChars upper (canonicalChars upper chars) = canonicalChars upper chars := by
  induction chars generalizing upper with
  | nil => rfl
  | cons char rest induction =>
      cases upper with
      | true =>
          simp only [canonicalChars, if_true, Case.to_upper_to_upper, Case.to_upper_hyphen, induction]
      | false =>
          simp only [canonicalChars, Bool.false_eq_true, if_false, Case.to_lower_to_lower,
            Case.to_lower_hyphen, induction]

theorem canonical_name_twice (name : String) :
    canonicalName (canonicalName name) = canonicalName name := by
  simp only [canonicalName, String.toList_ofList, canonical_chars_twice]

theorem canonical_nameless : ∀ name ∈ ({} : Multimap).names, canonicalName name = name := by
  simp [Multimap.names]

structure Headers where
  fields : Multimap := {}
  canonical : ∀ name ∈ fields.names, canonicalName name = name := by exact canonical_nameless
  deriving DecidableEq, Repr

namespace Headers

def empty : Headers := {}

theorem canonical_alter (headers : Headers) (name fresh : String)
    (change : List String → List String) :
    ∀ other ∈ (⟨Multimap.alter (canonicalName name) change fresh headers.fields.entries⟩ :
      Multimap).names, canonicalName other = other := by
  intro other member
  rcases Multimap.mem_names_alter member with rfl | member
  · exact canonical_name_twice name
  · exact headers.canonical other member

def add (headers : Headers) (name value : String) : Headers where
  fields := headers.fields.add (canonicalName name) value
  canonical := canonical_alter headers name value _

def set (headers : Headers) (name value : String) : Headers where
  fields := headers.fields.set (canonicalName name) value
  canonical := canonical_alter headers name value _

def getAll (headers : Headers) (name : String) : List String :=
  headers.fields.getAll (canonicalName name)

def get? (headers : Headers) (name : String) : Option String := (headers.getAll name).head?

def contains (headers : Headers) (name : String) : Bool :=
  headers.fields.contains (canonicalName name)

def remove (headers : Headers) (name : String) : Option (List String) × Headers :=
  (headers.fields.values? (canonicalName name),
    { fields := headers.fields.erase (canonicalName name)
      canonical := fun other member => headers.canonical other (Multimap.mem_names_erase member) })

def names (headers : Headers) : List String := headers.fields.names

def pairs (headers : Headers) : List (String × String) := headers.fields.pairs

def size (headers : Headers) : Nat := headers.fields.size

def isEmpty (headers : Headers) : Bool := headers.fields.isEmpty

def ofPairs (pairs : List (String × String)) : Headers where
  fields := Multimap.ofPairs (pairs.map fun pair => (canonicalName pair.1, pair.2))
  canonical := by
    intro name member
    obtain ⟨renamed, listed, rfl⟩ := List.mem_map.1 (Multimap.names_of_pairs member)
    obtain ⟨pair, _, rfl⟩ := List.mem_map.1 listed
    exact canonical_name_twice pair.1

theorem of_pairs_append (pairs : List (String × String)) (name value : String) :
    ofPairs (pairs ++ [(name, value)]) = (ofPairs pairs).add name value := by
  simp [ofPairs, add, Multimap.of_pairs_append]

def contentType? (headers : Headers) : Option MediaType :=
  (headers.get? "Content-Type").bind MediaType.parse?

def setContentType (headers : Headers) (media : MediaType) : Headers :=
  headers.set "Content-Type" media.render

/-- The first Content-Length, where it is a number of 64 bits. -/
def contentLength? (headers : Headers) : Option Nat :=
  (headers.get? "Content-Length").bind fun text =>
    (Numeral.natural u64Max (Text.trim text).toList).toOption

end Headers

end StreamHttp
