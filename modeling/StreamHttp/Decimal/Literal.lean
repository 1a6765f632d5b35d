import StreamHttp.Decimal.Binary64
import StreamHttp.Decimal.Digits
import StreamHttp.Text.Numeral

/-!
Decimal literals: a sign, digits with a point among them, and an exponent. Every part but the digits
may be missing, and so may the digits on one side of the point.
-/

namespace StreamHttp.Decimal

def leadingDigits (chars : List Char) : List Char × List Char :=
  (chars.takeWhile fun char => (Numeral.digitValue? char).isSome,
    chars.dropWhile fun char => (Numeral.digitValue? char).isSome)

def valueOf (digits : List Char) : Nat :=
  Digits.value 10 (digits.map fun char => (Numeral.digitValue? char).getD 0)

def splitSign : List Char → Bool × List Char
  | '-' :: rest => (true, rest)
  | '+' :: rest => (false, rest)
  | chars => (false, chars)

def exponent? : List Char → Option Int
  | [] => some 0
  | mark :: rest =>
      if mark == 'e' || mark == 'E' then
        let (negative, rest) := splitSign rest
        match leadingDigits rest with
        | (first :: digits, []) =>
            let value : Int := valueOf (first :: digits)
            some (if negative then -value else value)
        | _ => none
      else none

def parse? (text : String) : Option Float :=
  let (negative, chars) := splitSign text.toList
  let (whole, rest) := leadingDigits chars
  let (fraction, rest) := match rest with
    | '.' :: rest => leadingDigits rest
    | rest => ([], rest)
  if whole.isEmpty && fraction.isEmpty then none
  else
    match exponent? rest with
    | none => none
    | some exponent =>
        let exponent := exponent - fraction.length
        let magnitude := Binary64.ofDecimal (valueOf (whole ++ fraction)) exponent
        if magnitude.isInf then none else some (if negative then -magnitude else magnitude)

end StreamHttp.Decimal
