import StreamHttp.Decimal.Binary64
import StreamHttp.Json.Basic
import StreamHttp.Text.Numeral
import StreamHttp.Text.Utf8

/-!
Reading JSON from bytes. A failure names its cause and the number of bytes that were still unread
there, from which its line and column follow. Numbers are read digit by digit: the digits that fit
64 bits make the significand, and the power of ten is applied to it in floating point.
-/

namespace StreamHttp.Json

inductive Problem where
  | endInValue
  | endInList
  | endInObject
  | endInString
  | expectedValue
  | expectedIdent
  | expectedColon
  | expectedListEnd
  | expectedObjectEnd
  | keyNotString
  | trailingComma
  | trailingCharacters
  | invalidNumber
  | numberOutOfRange
  | invalidEscape
  | loneSurrogate
  | endOfHexEscape
  | controlCharacter
  | invalidCodePoint
  | nestedTooDeep
  | mismatch (text : String)

def Problem.message : Problem → String
  | .endInValue => "EOF while parsing a value"
  | .endInList => "EOF while parsing a list"
  | .endInObject => "EOF while parsing an object"
  | .endInString => "EOF while parsing a string"
  | .expectedValue => "expected value"
  | .expectedIdent => "expected ident"
  | .expectedColon => "expected \x60:\x60"
  | .expectedListEnd => "expected \x60,\x60 or \x60]\x60"
  | .expectedObjectEnd => "expected \x60,\x60 or \x60\x7d\x60"
  | .keyNotString => "key must be a string"
  | .trailingComma => "trailing comma"
  | .trailingCharacters => "trailing characters"
  | .invalidNumber => "invalid number"
  | .numberOutOfRange => "number out of range"
  | .invalidEscape => "invalid escape"
  | .loneSurrogate => "lone leading surrogate in hex escape"
  | .endOfHexEscape => "unexpected end of hex escape"
  | .controlCharacter => "control character (\\u0000-\\u001F) found while parsing a string"
  | .invalidCodePoint => "invalid unicode code point"
  | .nestedTooDeep => "recursion limit exceeded"
  | .mismatch text => text

structure Failure where
  problem : Problem
  unread : Nat

/-- The line and column reached after the consumed bytes: a line feed starts column 0. -/
def position (consumed : Bytes) : Nat × Nat :=
  consumed.foldl
    (fun place byte => if byte == Byte.lf then (place.1 + 1, 0) else (place.1, place.2 + 1)) (1, 0)

def Failure.message (failure : Failure) (input : Bytes) : String :=
  let place := position (input.take (input.length - failure.unread))
  failure.problem.message ++ " at line " ++ toString place.1 ++ " column " ++ toString place.2

def failAt {α : Type} (problem : Problem) (rest : Bytes) : Except Failure α :=
  .error ⟨problem, rest.length⟩

def failNext {α : Type} (problem : Problem) (rest : Bytes) : Except Failure α :=
  .error ⟨problem, rest.length - 1⟩

def isJsonSpace (byte : Byte) : Bool := byte == 32 || byte == 10 || byte == 9 || byte == 13

def skipSpace (rest : Bytes) : Bytes := rest.dropWhile isJsonSpace

def ident : List Byte → Bytes → Except Failure Bytes
  | [], rest => .ok rest
  | _ :: _, [] => failAt .endInValue []
  | letter :: letters, byte :: rest =>
      if byte == letter then ident letters rest else failAt .expectedIdent rest

/-- The value times a power of ten, one rounding for each factor of at most `10 ^ 308`. -/
def scale (value : Float) (exponent : Int) : Option Float :=
  if exponent.natAbs ≤ 308 then
    let power := Binary64.ofDecimal 1 exponent.natAbs
    if 0 ≤ exponent then
      let scaled := value * power
      if scaled.isInf then none else some scaled
    else some (value / power)
  else if value == 0.0 then some value
  else if 0 ≤ exponent then none
  else scale (value / Binary64.ofDecimal 1 308) (exponent + 308)
termination_by exponent.natAbs
decreasing_by omega

/-- The digits read so far: their value while it fits 64 bits, and the power of ten. -/
def floatOf (positive : Bool) (significand : Nat) (exponent : Int) (rest : Bytes) :
    Except Failure (Json × Bytes) :=
  match scale (UInt64.ofNat significand).toFloat exponent with
  | none => failAt .numberOutOfRange rest
  | some value => .ok (.float (if positive then value else -value), rest)

def dropDigits (rest : Bytes) : Bytes := rest.dropWhile Byte.isDigit

def digitOf (byte : Byte) : Nat := byte.toNat - 48

def exponentLimit : Nat := 2147483647

/-- The further digits of an exponent; `none` once it exceeds 31 bits. -/
def exponentDigits : Nat → Bytes → Option Nat × Bytes
  | value, [] => (some value, [])
  | value, byte :: rest =>
      if byte.isDigit then
        let value := value * 10 + digitOf byte
        if value ≤ exponentLimit then exponentDigits value rest else (none, rest)
      else (some value, byte :: rest)

def saturate (exponent : Int) : Int :=
  if exponent > 2147483647 then 2147483647
  else if exponent < -2147483648 then -2147483648
  else exponent

def exponentPart (positive : Bool) (significand : Nat) (start : Int) (rest : Bytes) :
    Except Failure (Json × Bytes) :=
  let (up, rest) := match rest with
    | 43 :: rest => (true, rest)
    | 45 :: rest => (false, rest)
    | rest => (true, rest)
  match rest with
  | [] => failAt .endInValue []
  | byte :: rest =>
      if byte.isDigit then
        match exponentDigits (digitOf byte) rest with
        | (some value, rest) =>
            let exponent := saturate (if up then start + value else start - value)
            floatOf positive significand exponent rest
        | (none, rest) =>
            if significand != 0 && up then failAt .numberOutOfRange rest
            else .ok (.float (if positive then 0.0 else -0.0), dropDigits rest)
      else failAt .invalidNumber rest

def afterDigits (positive : Bool) (significand : Nat) (exponent : Int) (rest : Bytes) :
    Except Failure (Json × Bytes) :=
  match rest with
  | 101 :: rest => exponentPart positive significand exponent rest
  | 69 :: rest => exponentPart positive significand exponent rest
  | rest => floatOf positive significand exponent rest

/-- Reads behind the point; digits beyond 64 bits are dropped. -/
def fractionDigits (positive : Bool) (significand : Nat) (start after : Int) : Bytes →
    Except Failure (Json × Bytes)
  | [] =>
      if after == 0 then failNext .endInValue []
      else afterDigits positive significand (start + after) []
  | byte :: rest =>
      if byte.isDigit then
        if significand * 10 + digitOf byte ≤ u64Max then
          fractionDigits positive (significand * 10 + digitOf byte) start (after - 1) rest
        else afterDigits positive significand (start + after) (dropDigits rest)
      else if after == 0 then failNext .invalidNumber (byte :: rest)
      else afterDigits positive significand (start + after) (byte :: rest)

/-- Whole digits beyond 64 bits only raise the power of ten. -/
def longDigits (positive : Bool) (significand : Nat) (exponent : Int) : Bytes →
    Except Failure (Json × Bytes)
  | [] => floatOf positive significand exponent []
  | byte :: rest =>
      if byte.isDigit then longDigits positive significand (exponent + 1) rest
      else if byte == 46 then fractionDigits positive significand exponent 0 rest
      else afterDigits positive significand exponent (byte :: rest)

def wholeOf (positive : Bool) (significand : Nat) (rest : Bytes) : Except Failure (Json × Bytes) :=
  if positive then .ok (.integer significand, rest)
  else if significand == 0 || significand > i64Max + 1 then
    .ok (.float (-(UInt64.ofNat significand).toFloat), rest)
  else .ok (.integer (-(significand : Int)), rest)

def wholeDigits (positive : Bool) (significand : Nat) : Bytes → Except Failure (Json × Bytes)
  | [] => wholeOf positive significand []
  | byte :: rest =>
      if byte.isDigit then
        if significand * 10 + digitOf byte ≤ u64Max then
          wholeDigits positive (significand * 10 + digitOf byte) rest
        else longDigits positive significand 1 rest
      else if byte == 46 then fractionDigits positive significand 0 0 rest
      else if byte == 101 || byte == 69 then exponentPart positive significand 0 rest
      else wholeOf positive significand (byte :: rest)

def unsignedNumber (positive : Bool) : Bytes → Except Failure (Json × Bytes)
  | [] => failAt .endInValue []
  | byte :: rest =>
      if byte == 48 then
        match rest with
        | next :: _ =>
            if next.isDigit then failNext .invalidNumber rest else wholeDigits positive 0 rest
        | [] => wholeDigits positive 0 []
      else if byte.isDigit then wholeDigits positive (digitOf byte) rest
      else failAt .invalidNumber rest

def number : Bytes → Except Failure (Json × Bytes)
  | 45 :: rest => unsignedNumber false rest
  | rest => unsignedNumber true rest

def fourHex (first second third fourth : Byte) : Option Nat := do
  let high ← first.hexValue?
  let next ← second.hexValue?
  let third ← third.hexValue?
  let low ← fourth.hexValue?
  some (high * 4096 + next * 256 + third * 16 + low)

def hexEscape : Bytes → Except Failure (Nat × Bytes)
  | first :: second :: third :: fourth :: rest =>
      match fourHex first second third fourth with
      | some unit => .ok (unit, rest)
      | none => failAt .invalidEscape rest
  | _ => failAt .endInString []

def isLeading (unit : Nat) : Bool := 0xD800 ≤ unit && unit ≤ 0xDBFF

def isTrailing (unit : Nat) : Bool := 0xDC00 ≤ unit && unit ≤ 0xDFFF

/-- Reads behind `\u`: one unit, or a leading and a trailing surrogate. -/
def unicodeEscape (rest : Bytes) : Except Failure (Char × Bytes) := do
  let (unit, rest) ← hexEscape rest
  if isTrailing unit then failAt .loneSurrogate rest
  else if isLeading unit then
    match rest with
    | [] => failAt .endInString []
    | 92 :: rest =>
        match rest with
        | [] => failAt .endInString []
        | 117 :: rest =>
            let (second, rest) ← hexEscape rest
            if isTrailing second then
              .ok (Char.ofNat (0x10000 + (unit - 0xD800) * 1024 + (second - 0xDC00)), rest)
            else failAt .loneSurrogate rest
        | _ :: rest => failAt .endOfHexEscape rest
    | _ :: rest => failAt .endOfHexEscape rest
  else .ok (Char.ofNat unit, rest)

def escape : Bytes → Except Failure (Char × Bytes)
  | [] => failAt .endInString []
  | byte :: rest =>
      match Char.ofNat byte.toNat with
      | '"' => .ok ('"', rest)
      | '\\' => .ok ('\\', rest)
      | '/' => .ok ('/', rest)
      | 'b' => .ok ('\x08', rest)
      | 'f' => .ok ('\x0c', rest)
      | 'n' => .ok ('\n', rest)
      | 'r' => .ok ('\r', rest)
      | 't' => .ok ('\t', rest)
      | 'u' => unicodeEscape rest
      | _ => failAt .invalidEscape rest

/-- Reads a string behind its opening quotation mark, as the reversed bytes of its text. The fuel
is at least the number of unread bytes. -/
def stringBytes : Nat → Bytes → Bytes → Except Failure (Bytes × Bytes)
  | 0, _, rest => failAt .endInString rest
  | _ + 1, _, [] => failAt .endInString []
  | fuel + 1, text, byte :: rest =>
      if byte == 34 then .ok (text, rest)
      else if byte == 92 then do
        let (char, rest) ← escape rest
        stringBytes fuel ((String.utf8EncodeChar char).reverse ++ text) rest
      else if byte < 32 then failAt .controlCharacter rest
      else stringBytes fuel (byte :: text) rest

/-- A text that is not well formed is refused at its closing quotation mark. -/
def stringBody (fuel : Nat) (rest : Bytes) : Except Failure (String × Bytes) := do
  let (text, rest) ← stringBytes fuel [] rest
  match Utf8.decode? text.reverse with
  | some text => .ok (text, rest)
  | none => failAt .invalidCodePoint (34 :: rest)

def nextItem (first : Bool) (rest : Bytes) : Except Failure (Bool × Bytes) :=
  match skipSpace rest with
  | [] => failNext .endInList []
  | 93 :: rest => .ok (false, 93 :: rest)
  | byte :: rest =>
      if first then .ok (true, byte :: rest)
      else if byte == 44 then
        match skipSpace rest with
        | 93 :: rest => failNext .trailingComma (93 :: rest)
        | [] => failNext .endInValue []
        | rest => .ok (true, rest)
      else failNext .expectedListEnd (byte :: rest)

def nextName (first : Bool) (rest : Bytes) : Except Failure (Bool × Bytes) :=
  match skipSpace rest with
  | [] => failNext .endInObject []
  | 125 :: rest => .ok (false, 125 :: rest)
  | byte :: rest =>
      if first then
        if byte == 34 then .ok (true, byte :: rest) else failNext .keyNotString (byte :: rest)
      else if byte == 44 then
        match skipSpace rest with
        | 34 :: rest => .ok (true, 34 :: rest)
        | 125 :: rest => failNext .trailingComma (125 :: rest)
        | [] => failNext .endInValue []
        | rest => failNext .keyNotString rest
      else failNext .expectedObjectEnd (byte :: rest)

def listEnd (rest : Bytes) : Except Failure Bytes :=
  match skipSpace rest with
  | [] => failNext .endInList []
  | 93 :: rest => .ok rest
  | 44 :: rest =>
      match skipSpace rest with
      | 93 :: rest => failNext .trailingComma (93 :: rest)
      | rest => failNext .trailingCharacters rest
  | rest => failNext .trailingCharacters rest

def objectEnd (rest : Bytes) : Except Failure Bytes :=
  match skipSpace rest with
  | [] => failNext .endInObject []
  | 125 :: rest => .ok rest
  | 44 :: rest => failNext .trailingComma (44 :: rest)
  | rest => failNext .trailingCharacters rest

def colon (rest : Bytes) : Except Failure Bytes :=
  match skipSpace rest with
  | [] => failNext .endInObject []
  | 58 :: rest => .ok rest
  | rest => failNext .expectedColon rest

/-- Values nest at most this deep, less one. -/
def depthLimit : Nat := 128

mutual

/-- Reads any value. The fuel is more than twice the number of unread bytes, `depth` the nesting
left. -/
def value : Nat → Nat → Bytes → Except Failure (Json × Bytes)
  | 0, _, rest => failAt .expectedValue rest
  | fuel + 1, depth, rest =>
      match skipSpace rest with
      | [] => failNext .endInValue []
      | 110 :: rest => do .ok (.null, ← ident [117, 108, 108] rest)
      | 116 :: rest => do .ok (.bool true, ← ident [114, 117, 101] rest)
      | 102 :: rest => do .ok (.bool false, ← ident [97, 108, 115, 101] rest)
      | 34 :: rest => do
          let (text, rest) ← stringBody fuel rest
          .ok (.string text, rest)
      | 91 :: rest =>
          if depth ≤ 1 then failNext .nestedTooDeep (91 :: rest)
          else do
            let (items, rest) ← items fuel (depth - 1) true rest
            .ok (.array items, ← listEnd rest)
      | 123 :: rest =>
          if depth ≤ 1 then failNext .nestedTooDeep (123 :: rest)
          else do
            let (members, rest) ← members fuel (depth - 1) true [] rest
            .ok (.object members, ← objectEnd rest)
      | byte :: rest =>
          if byte == 45 || byte.isDigit then number (byte :: rest)
          else failNext .expectedValue (byte :: rest)

def items : Nat → Nat → Bool → Bytes → Except Failure (List Json × Bytes)
  | 0, _, _, rest => failAt .endInList rest
  | fuel + 1, depth, first, rest => do
      let (more, rest) ← nextItem first rest
      if more then
        let (item, rest) ← value fuel depth rest
        let (others, rest) ← items fuel depth false rest
        .ok (item :: others, rest)
      else .ok ([], rest)

def members : Nat → Nat → Bool → List (String × Json) → Bytes →
    Except Failure (List (String × Json) × Bytes)
  | 0, _, _, _, rest => failAt .endInObject rest
  | fuel + 1, depth, first, found, rest => do
      let (more, rest) ← nextName first rest
      if more then
        let (name, rest) ← stringBody fuel (rest.drop 1)
        let rest ← colon rest
        let (held, rest) ← value fuel depth rest
        members fuel depth false (insertMember name held found) rest
      else .ok (found, rest)

end

def onlyBlank (rest : Bytes) : Except Failure Unit :=
  match skipSpace rest with
  | [] => .ok ()
  | rest => failNext .trailingCharacters rest

def read (input : Bytes) : Except Failure Json := do
  let (result, rest) ← value (2 * input.length + 2) depthLimit input
  onlyBlank rest
  .ok result

def parse (input : Bytes) : Except String Json :=
  (read input).mapError fun failure => failure.message input

def parseText (text : String) : Except String Json := parse (Bytes.ofString text)

end StreamHttp.Json
