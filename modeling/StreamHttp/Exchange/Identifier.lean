/-!
Identifiers of requests that bring none: random numbers written as UUIDs of version 4. Thirty digits
and two bits carry the number. The version stands between them, and the two bits behind the variant,
whose digit is 8, 9, a or b for it.
-/

namespace StreamHttp.Identifier

/-- The last digits of a number, in base 16. -/
def digits : Nat → Nat → List Char
  | 0, _ => []
  | count + 1, number => digits count (number / 16) ++ [Nat.digitChar (number % 16)]

def variantDigit (number : Nat) : Char := Nat.digitChar (8 + number % 4)

def ofNumber (number : Nat) : String :=
  let text := digits 30 (number / 4)
  let part (start size : Nat) := String.ofList ((text.drop start).take size)
  let variant := String.ofList [variantDigit number]
  "-".intercalate [part 0 8, part 8 4, "4" ++ part 12 3, variant ++ part 15 3, part 18 12]

end StreamHttp.Identifier
