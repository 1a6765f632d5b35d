import StreamHttp.Decimal.Shortest
import StreamHttp.Json.Basic
import StreamHttp.Text.Quoted

/-!
The compact text of a JSON value, and the annotated text that messages show of one.
-/

namespace StreamHttp.Json

def escapeChar (char : Char) : List Char :=
  match char with
  | '"' => ['\\', '"']
  | '\\' => ['\\', '\\']
  | '\n' => ['\\', 'n']
  | '\r' => ['\\', 'r']
  | '\t' => ['\\', 't']
  | '\x08' => ['\\', 'b']
  | '\x0c' => ['\\', 'f']
  | char =>
      if char.toNat < 0x20 then
        ['\\', 'u', '0', '0'] ++
          (if char.toNat < 16 then ['0'] else []) ++ Nat.toDigits 16 char.toNat
      else [char]

def stringText (text : String) : List Char := '"' :: text.toList.flatMap escapeChar ++ ['"']

def integerText (value : Int) : List Char :=
  if value < 0 then '-' :: Nat.toDigits 10 value.natAbs else Nat.toDigits 10 value.natAbs

/-- The fewest digits that read back. From a hundred-thousandth up to ten to the sixteenth they are
written out with a fraction, beyond that with an exponent that carries its sign. -/
def magnitudeText (value : Float) : List Char :=
  let short := Decimal.shortest value
  let digits := Nat.toDigits 10 short.digits
  let point : Int := digits.length + short.exponent
  if short.digits == 0 then ['0', '.', '0']
  else if 0 ≤ short.exponent && point ≤ 16 then
    digits ++ List.replicate short.exponent.toNat '0' ++ ['.', '0']
  else if 0 < point && point ≤ 16 then
    digits.take point.toNat ++ '.' :: digits.drop point.toNat
  else if -5 < point && point ≤ 0 then
    ['0', '.'] ++ List.replicate (-point).toNat '0' ++ digits
  else
    let fraction := match digits.drop 1 with
      | [] => []
      | rest => '.' :: rest
    let sign := if point ≤ 0 then '-' else '+'
    digits.take 1 ++ fraction ++ 'e' :: sign :: Nat.toDigits 10 (point - 1).natAbs

def floatText (value : Float) : List Char :=
  if Binary64.isNegative value then '-' :: magnitudeText value else magnitudeText value

def commaSeparated (texts : List (List Char)) : List Char := [','].intercalate texts

mutual

def chars : Json → List Char
  | .null => ['n', 'u', 'l', 'l']
  | .bool true => ['t', 'r', 'u', 'e']
  | .bool false => ['f', 'a', 'l', 's', 'e']
  | .integer value => integerText value
  | .float value => floatText value
  | .string text => stringText text
  | .array items => '[' :: commaSeparated (itemTexts items) ++ [']']
  | .object members => '\x7b' :: commaSeparated (memberTexts members) ++ ['\x7d']

def itemTexts : List Json → List (List Char)
  | [] => []
  | item :: rest => chars item :: itemTexts rest

def memberTexts : List (String × Json) → List (List Char)
  | [] => []
  | (name, value) :: rest => (stringText name ++ ':' :: chars value) :: memberTexts rest

end

def render (value : Json) : String := String.ofList (chars value)

mutual

def annotated : Json → String
  | .null => "Null"
  | .bool value => "Bool(" ++ toString value ++ ")"
  | .integer value => "Number(" ++ String.ofList (integerText value) ++ ")"
  | .float value => "Number(" ++ String.ofList (floatText value) ++ ")"
  | .string text => "String(" ++ quoted text ++ ")"
  | .array items => "Array [" ++ ", ".intercalate (annotatedItems items) ++ "]"
  | .object members => "Object \x7b" ++ ", ".intercalate (annotatedMembers members) ++ "\x7d"

def annotatedItems : List Json → List String
  | [] => []
  | item :: rest => annotated item :: annotatedItems rest

def annotatedMembers : List (String × Json) → List String
  | [] => []
  | (name, value) :: rest => (quoted name ++ ": " ++ annotated value) :: annotatedMembers rest

end

end StreamHttp.Json
