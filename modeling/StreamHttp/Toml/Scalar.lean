import StreamHttp.Bytes
import StreamHttp.Decimal.Literal
import StreamHttp.Text.Numeral

/-!
The scalar values of TOML: strings in four notations, numbers, booleans and dates with times. A
reader takes the characters that it needs from the front and gives back the rest, or refuses.
-/

namespace StreamHttp.Toml

/-- Reads from the front of a text; a text that does not have the form is refused. -/
abbrev Reading (α : Type) := List Char → Option (α × List Char)

def isBlankChar (char : Char) : Bool := char == ' ' || char == '\t'

def skipBlanks (chars : List Char) : List Char := chars.dropWhile isBlankChar

/-- Characters that stand for themselves in comments and in strings: no control but the tab. -/
def isPlain (char : Char) : Bool :=
  char == '\t' || (0x20 ≤ char.toNat && char.toNat != 0x7F)

def lineEnd? : List Char → Option (List Char)
  | '\n' :: rest => some rest
  | '\r' :: '\n' :: rest => some rest
  | _ => none

theorem line_end_length {chars rest : List Char} (ended : lineEnd? chars = some rest) :
    rest.length < chars.length := by
  unfold lineEnd? at ended
  split at ended <;> cases ended
  all_goals simp only [List.length_cons]
  all_goals omega

theorem length_skip_blanks_le (chars : List Char) : (skipBlanks chars).length ≤ chars.length :=
  (List.dropWhile_sublist _).length_le

def hexDigit? (char : Char) : Option Nat :=
  if char.toNat < 128 then Byte.hexValue? (Byte.ofAscii char) else none

def scalar? (code : Nat) : Option Char :=
  if code < 0xD800 || (0xDFFF < code && code < 0x110000) then some (Char.ofNat code) else none

def codePoint (count : Nat) : Reading Char := fun chars => do
  let digits ← (chars.take count).mapM hexDigit?
  if digits.length != count then none
  else
    let char ← scalar? (Digits.value 16 digits)
    some (char, chars.drop count)

theorem code_point_length {count : Nat} {chars rest : List Char} {char : Char}
    (taken : codePoint count chars = some (char, rest)) : rest.length ≤ chars.length := by
  simp only [codePoint, Option.bind_eq_bind, Option.bind_eq_some_iff] at taken
  obtain ⟨digits, _, taken⟩ := taken
  split at taken
  · cases taken
  · obtain ⟨found, _, taken⟩ := Option.bind_eq_some_iff.1 taken
    cases taken
    simp

def escaped : Reading Char
  | 'b' :: rest => some ('\x08', rest)
  | 't' :: rest => some ('\t', rest)
  | 'n' :: rest => some ('\n', rest)
  | 'f' :: rest => some ('\x0c', rest)
  | 'r' :: rest => some ('\r', rest)
  | '"' :: rest => some ('"', rest)
  | '\\' :: rest => some ('\\', rest)
  | 'u' :: rest => codePoint 4 rest
  | 'U' :: rest => codePoint 8 rest
  | _ => none

theorem escaped_length {chars rest : List Char} {char : Char}
    (taken : escaped chars = some (char, rest)) : rest.length < chars.length := by
  unfold escaped at taken
  split at taken
  case h_8 | h_9 =>
    have := code_point_length taken
    simp only [List.length_cons]
    omega
  all_goals cases taken
  all_goals simp

def skipLineEnds : List Char → List Char
  | '\n' :: rest => skipLineEnds rest
  | '\r' :: '\n' :: rest => skipLineEnds rest
  | char :: rest => if isBlankChar char then skipLineEnds rest else char :: rest
  | [] => []

/-- What remains behind a backslash at the end of a line: blanks and line ends are left out. -/
def continuedLine? (chars : List Char) : Option (List Char) :=
  (lineEnd? (skipBlanks chars)).map skipLineEnds

theorem length_skip_line_ends_le (chars : List Char) :
    (skipLineEnds chars).length ≤ chars.length := by
  fun_induction skipLineEnds chars <;> simp_all <;> omega

theorem continued_line_length {chars rest : List Char}
    (continued : continuedLine? chars = some rest) : rest.length < chars.length := by
  obtain ⟨behind, ended, rfl⟩ := Option.map_eq_some_iff.1 continued
  have := line_end_length ended
  have := length_skip_blanks_le chars
  have := length_skip_line_ends_le behind
  omega

def basicBody (seen : List Char) (chars : List Char) : Option (String × List Char) :=
  match chars with
  | '"' :: rest => some (String.ofList seen.reverse, rest)
  | '\\' :: behind =>
      match _taken : escaped behind with
      | some (char, rest) => basicBody (char :: seen) rest
      | none => none
  | char :: rest => if isPlain char then basicBody (char :: seen) rest else none
  | [] => none
termination_by chars.length
decreasing_by
  · have := escaped_length _taken
    simp only [List.length_cons]
    omega
  · simp

def literalBody : List Char → Reading String
  | _, [] => none
  | seen, '\'' :: rest => some (String.ofList seen.reverse, rest)
  | seen, char :: rest => if isPlain char then literalBody (char :: seen) rest else none

/-- Three to five marks end a string of several lines; those beyond three belong to it. -/
def closing? (mark : Char) (seen chars : List Char) : Option (String × List Char) :=
  let run := (chars.takeWhile (· == mark)).length
  if 3 ≤ run && run ≤ 5 then
    some (String.ofList (seen.reverse ++ List.replicate (run - 3) mark), chars.drop run)
  else none

def longBody (mark : Char) (escapes : Bool) (seen : List Char) (chars : List Char) :
    Option (String × List Char) :=
  match _ended : lineEnd? chars with
  | some rest => longBody mark escapes ('\n' :: seen) rest
  | none =>
      match chars with
      | [] => none
      | char :: behind =>
          if char == mark then
            let run := ((char :: behind).takeWhile (· == mark)).length
            if run < 3 then
              longBody mark escapes (List.replicate run mark ++ seen)
                (behind.dropWhile (· == mark))
            else closing? mark seen (char :: behind)
          else if escapes && char == '\\' then
            match _continued : continuedLine? behind with
            | some rest => longBody mark escapes seen rest
            | none =>
                match _taken : escaped behind with
                | some (char, rest) => longBody mark escapes (char :: seen) rest
                | none => none
          else if isPlain char then longBody mark escapes (char :: seen) behind
          else none
termination_by chars.length
decreasing_by
  · exact line_end_length _ended
  · exact Nat.lt_succ_of_le (List.dropWhile_sublist _).length_le
  · exact Nat.lt_succ_of_lt (continued_line_length _continued)
  · exact Nat.lt_succ_of_lt (escaped_length _taken)
  · simp

def skipFirstLineEnd (chars : List Char) : List Char := (lineEnd? chars).getD chars

def shortString : Reading String
  | '"' :: rest => basicBody [] rest
  | '\'' :: rest => literalBody [] rest
  | _ => none

def anyString : Reading String
  | '"' :: '"' :: '"' :: rest => longBody '"' true [] (skipFirstLineEnd rest)
  | '\'' :: '\'' :: '\'' :: rest => longBody '\'' false [] (skipFirstLineEnd rest)
  | chars => shortString chars

/-! Numbers. An underscore may stand between two digits. -/

def isDecimalDigit (char : Char) : Bool := (Numeral.digitValue? char).isSome

/-- The digits at the front, at least one, without their underscores. -/
def digitsOf (isDigit : Char → Bool) : Reading (List Char) := fun chars =>
  let run := chars.takeWhile fun char => isDigit char || char == '_'
  if (pieces '_' run).any List.isEmpty then none
  else some (run.filter (· != '_'), chars.drop run.length)

def decimalDigits : Reading (List Char)
  | '0' :: rest => some (['0'], rest)
  | chars => digitsOf isDecimalDigit chars

def baseDigits (limit : Nat) (char : Char) : Bool := (hexDigit? char).any (· < limit)

inductive Scalar where
  | string (content : String)
  | integer (value : Int)
  | float
  | boolean (value : Bool)
  | datetime
  deriving DecidableEq, Repr

def integerWithin (value : Int) (rest : List Char) : Option (Scalar × List Char) :=
  if -(i64Max + 1 : Int) ≤ value && value ≤ i64Max then some (.integer value, rest) else none

def basedInteger (base : Nat) : Reading Scalar := fun chars => do
  let (digits, rest) ← digitsOf (baseDigits base) chars
  let value := Digits.value base (digits.map fun digit => (hexDigit? digit).getD 0)
  integerWithin value rest

def fractionPart : Reading (List Char)
  | '.' :: rest => (digitsOf isDecimalDigit rest).map fun taken => ('.' :: taken.1, taken.2)
  | chars => some ([], chars)

def exponentPart : Reading (List Char)
  | mark :: rest =>
      if mark == 'e' || mark == 'E' then
        let (sign, rest) := match rest with
          | '-' :: rest => (['-'], rest)
          | '+' :: rest => ([], rest)
          | rest => ([], rest)
        (digitsOf isDecimalDigit rest).map fun taken => ('e' :: sign ++ taken.1, taken.2)
      else some ([], mark :: rest)
  | [] => some ([], [])

/-- A decimal number behind its sign; a positive one may not exceed the greatest float. -/
def decimalNumber (negative : Bool) : Reading Scalar := fun chars => do
  let (whole, rest) ← decimalDigits chars
  let (fraction, rest) ← fractionPart rest
  let (exponent, rest) ← exponentPart rest
  if fraction.isEmpty && exponent.isEmpty then
    let value : Int := Decimal.valueOf whole
    integerWithin (if negative then -value else value) rest
  else
    let literal := String.ofList (whole ++ fraction ++ exponent)
    if !negative && (Decimal.parse? literal).isNone then none else some (.float, rest)

def signedNumber (negative : Bool) : Reading Scalar
  | 'i' :: 'n' :: 'f' :: rest => some (.float, rest)
  | 'n' :: 'a' :: 'n' :: rest => some (.float, rest)
  | chars => decimalNumber negative chars

def number : Reading Scalar
  | '+' :: rest => signedNumber false rest
  | '-' :: rest => signedNumber true rest
  | '0' :: 'x' :: rest => basedInteger 16 rest
  | '0' :: 'o' :: rest => basedInteger 8 rest
  | '0' :: 'b' :: rest => basedInteger 2 rest
  | chars => decimalNumber false chars

/-! Dates and times. -/

def fixedNumber (count least greatest : Nat) : Reading Nat := fun chars =>
  let digits := chars.take count
  let value := Decimal.valueOf digits
  if digits.length == count && digits.all isDecimalDigit && least ≤ value && value ≤ greatest then
    some (value, chars.drop count)
  else none

def mark (char : Char) : Reading Unit
  | first :: rest => if first == char then some ((), rest) else none
  | [] => none

def daysOf (year month : Nat) : Nat :=
  if month == 2 then
    if year % 4 == 0 && (year % 100 != 0 || year % 400 == 0) then 29 else 28
  else if [4, 6, 9, 11].contains month then 30
  else 31

def date : Reading Unit := fun chars => do
  let (year, rest) ← fixedNumber 4 0 9999 chars
  let ((), rest) ← mark '-' rest
  let (month, rest) ← fixedNumber 2 1 12 rest
  let ((), rest) ← mark '-' rest
  let (_, rest) ← fixedNumber 2 1 (daysOf year month) rest
  some ((), rest)

def time : Reading Unit := fun chars => do
  let (_, rest) ← fixedNumber 2 0 23 chars
  let ((), rest) ← mark ':' rest
  let (_, rest) ← fixedNumber 2 0 59 rest
  let ((), rest) ← mark ':' rest
  let (_, rest) ← fixedNumber 2 0 60 rest
  match rest with
  | '.' :: rest =>
      let digits := rest.takeWhile isDecimalDigit
      if digits.isEmpty then none else some ((), rest.drop digits.length)
  | rest => some ((), rest)

def offset : Reading Unit
  | [] => some ((), [])
  | sign :: rest =>
      if sign == 'Z' || sign == 'z' then some ((), rest)
      else if sign == '+' || sign == '-' then do
        let (_, rest) ← fixedNumber 2 0 23 rest
        let ((), rest) ← mark ':' rest
        let (_, rest) ← fixedNumber 2 0 59 rest
        some ((), rest)
      else some ((), sign :: rest)

/-- Whether digits up to a mark begin a date or a time. -/
def begins (count : Nat) (char : Char) (chars : List Char) : Bool :=
  (chars.take count).length == count && (chars.take count).all isDecimalDigit &&
    (chars.drop count).head? == some char

/-- The time that may follow a date. A blank may also stand in front of something else. -/
def timeBehindDate : Reading Unit
  | [] => some ((), [])
  | separator :: rest =>
      if separator == 'T' || separator == 't' || (separator == ' ' && begins 2 ':' rest) then do
        let ((), rest) ← time rest
        offset rest
      else some ((), separator :: rest)

def datetime : Reading Scalar := fun chars => do
  let ((), rest) ← if begins 4 '-' chars then (date chars).bind fun taken => timeBehindDate taken.2
    else time chars
  some (.datetime, rest)

def scalar : Reading Scalar := fun chars =>
  match chars with
  | 't' :: 'r' :: 'u' :: 'e' :: rest => some (.boolean true, rest)
  | 'f' :: 'a' :: 'l' :: 's' :: 'e' :: rest => some (.boolean false, rest)
  | '"' :: _ => (anyString chars).map fun taken => (.string taken.1, taken.2)
  | '\'' :: _ => (anyString chars).map fun taken => (.string taken.1, taken.2)
  | chars =>
      if begins 4 '-' chars || begins 2 ':' chars then datetime chars
      else if chars.head? == some 'i' || chars.head? == some 'n' then signedNumber false chars
      else number chars

end StreamHttp.Toml
