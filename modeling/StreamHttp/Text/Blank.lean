import StreamHttp.Text.Pieces

/-!
The White_Space property, and what is defined by it: trimming both ends of a text and reading
its words.
-/

namespace StreamHttp

def whiteSpace : List (Nat × Nat) :=
  [(0x09, 0x0D), (0x20, 0x20), (0x85, 0x85), (0xA0, 0xA0), (0x1680, 0x1680), (0x2000, 0x200A),
   (0x2028, 0x2029), (0x202F, 0x202F), (0x205F, 0x205F), (0x3000, 0x3000)]

def isBlank (char : Char) : Bool :=
  whiteSpace.any fun range => range.1 ≤ char.toNat && char.toNat ≤ range.2

def trimBlank (chars : List Char) : List Char :=
  ((chars.dropWhile isBlank).reverse.dropWhile isBlank).reverse

/-- The maximal runs of characters that are not blank. -/
def blankWords (chars : List Char) : List (List Char) :=
  go chars []
where
  go : List Char → List Char → List (List Char)
    | [], word => if word.isEmpty then [] else [word.reverse]
    | char :: rest, word =>
        if isBlank char then
          if word.isEmpty then go rest [] else word.reverse :: go rest []
        else go rest (char :: word)

namespace Text

def trim (text : String) : String := String.ofList (trimBlank text.toList)

def words (text : String) : List String := (blankWords text.toList).map String.ofList

end Text

end StreamHttp
