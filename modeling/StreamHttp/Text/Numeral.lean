import StreamHttp.Text.Blank

/-!
Decimal integers in a bounded range. A sign may lead; there is no blank and no separator. When a
numeral has several faults, the first one from the left is named.
-/

namespace StreamHttp.Numeral

def digitValue? (char : Char) : Option Nat :=
  if '0' ≤ char && char ≤ '9' then some (char.toNat - 48) else none

inductive Problem where
  | empty
  | invalidDigit
  | tooLarge
  | tooSmall
  deriving DecidableEq, Repr

def Problem.message : Problem → String
  | .empty => "cannot parse integer from empty string"
  | .invalidDigit => "invalid digit found in string"
  | .tooLarge => "number too large to fit in target type"
  | .tooSmall => "number too small to fit in target type"

def digits (limit : Nat) (overflow : Problem) : Nat → List Char → Except Problem Nat
  | value, [] => .ok value
  | value, char :: rest =>
      match digitValue? char with
      | none => .error .invalidDigit
      | some digit =>
          if value * 10 + digit ≤ limit then digits limit overflow (value * 10 + digit) rest
          else .error overflow

def natural (limit : Nat) : List Char → Except Problem Nat
  | [] => .error .empty
  | ['+'] => .error .invalidDigit
  | '+' :: rest => digits limit .tooLarge 0 rest
  | chars => digits limit .tooLarge 0 chars

/-- Reads a signed number between `-(limit + 1)` and `limit`. -/
def integer (limit : Nat) : List Char → Except Problem Int
  | [] => .error .empty
  | ['+'] => .error .invalidDigit
  | ['-'] => .error .invalidDigit
  | '+' :: rest => (digits limit .tooLarge 0 rest).map Int.ofNat
  | '-' :: rest => (digits (limit + 1) .tooSmall 0 rest).map fun value => -Int.ofNat value
  | chars => (digits limit .tooLarge 0 chars).map Int.ofNat

def render (value : Nat) : List Char := Nat.toDigits 10 value

end StreamHttp.Numeral

namespace StreamHttp

def u64Max : Nat := 18446744073709551615

def i64Max : Nat := 9223372036854775807

end StreamHttp
