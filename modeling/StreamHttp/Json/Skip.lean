import StreamHttp.Json.Reader

/-!
Passing over a JSON value that nobody wants. Its form is checked, its content is not: numbers may
be of any size, escapes may name half a surrogate pair, and values may nest to any depth.
-/

namespace StreamHttp.Json

def skipExponent (rest : Bytes) : Except Failure Bytes :=
  let rest := match rest with
    | 43 :: rest => rest
    | 45 :: rest => rest
    | rest => rest
  match rest with
  | [] => failAt .invalidNumber []
  | byte :: rest => if byte.isDigit then .ok (dropDigits rest) else failAt .invalidNumber rest

def skipAfterDigits (rest : Bytes) : Except Failure Bytes :=
  match rest with
  | 101 :: rest => skipExponent rest
  | 69 :: rest => skipExponent rest
  | rest => .ok rest

def skipFraction (rest : Bytes) : Except Failure Bytes :=
  match rest with
  | 46 :: rest =>
      if (rest.head?.map Byte.isDigit).getD false then skipAfterDigits (dropDigits rest)
      else failNext .invalidNumber rest
  | rest => skipAfterDigits rest

def skipUnsigned (rest : Bytes) : Except Failure Bytes :=
  match rest with
  | [] => failAt .invalidNumber []
  | 48 :: rest =>
      if (rest.head?.map Byte.isDigit).getD false then failNext .invalidNumber rest
      else skipFraction rest
  | byte :: rest =>
      if byte.isDigit then skipFraction (dropDigits rest) else failAt .invalidNumber rest

def skipEscape : Bytes → Except Failure Bytes
  | [] => failAt .endInString []
  | byte :: rest =>
      if byte == 117 then (hexEscape rest).map Prod.snd
      else if [34, 92, 47, 98, 102, 110, 114, 116].contains byte then .ok rest
      else failAt .invalidEscape rest

def skipString : Nat → Bytes → Except Failure Bytes
  | 0, rest => failAt .endInString rest
  | _ + 1, [] => failAt .endInString []
  | fuel + 1, byte :: rest =>
      if byte == 34 then .ok rest
      else if byte == 92 then do skipString fuel (← skipEscape rest)
      else if byte < 32 then failAt .controlCharacter (byte :: rest)
      else skipString fuel rest

/-- The brackets that are open, the innermost first. -/
inductive Bracket where
  | list
  | object
  deriving DecidableEq

mutual

/-- Passes over one value and over all brackets that were open before it. -/
def skipOpen : Nat → List Bracket → Bytes → Except Failure Bytes
  | 0, _, rest => failAt .expectedValue rest
  | fuel + 1, enclosing, rest =>
      match skipSpace rest with
      | [] => failNext .endInValue []
      | 110 :: rest => do skipClosing fuel true enclosing (← ident [117, 108, 108] rest)
      | 116 :: rest => do skipClosing fuel true enclosing (← ident [114, 117, 101] rest)
      | 102 :: rest => do skipClosing fuel true enclosing (← ident [97, 108, 115, 101] rest)
      | 34 :: rest => do skipClosing fuel true enclosing (← skipString fuel rest)
      | 45 :: rest => do skipClosing fuel true enclosing (← skipUnsigned rest)
      | 91 :: rest => skipClosing fuel false (.list :: enclosing) rest
      | 123 :: rest => skipClosing fuel false (.object :: enclosing) rest
      | byte :: rest =>
          if byte.isDigit then do skipClosing fuel true enclosing (← skipUnsigned (byte :: rest))
          else failNext .expectedValue (byte :: rest)

/-- What follows a value, or an opening bracket unless `comma` is set. -/
def skipClosing : Nat → Bool → List Bracket → Bytes → Except Failure Bytes
  | 0, _, _, rest => failAt .expectedValue rest
  | _ + 1, _, [], rest => .ok rest
  | fuel + 1, comma, .list :: enclosing, rest =>
      match skipSpace rest with
      | [] => failNext .endInList []
      | 93 :: rest => skipClosing fuel true enclosing rest
      | byte :: rest =>
          if comma then
            if byte == 44 then skipOpen fuel (.list :: enclosing) rest
            else failNext .expectedListEnd (byte :: rest)
          else skipOpen fuel (.list :: enclosing) (byte :: rest)
  | fuel + 1, comma, .object :: enclosing, rest =>
      match skipSpace rest with
      | [] => failNext .endInObject []
      | 125 :: rest => skipClosing fuel true enclosing rest
      | byte :: rest =>
          if comma then
            if byte == 44 then skipName fuel enclosing rest
            else failNext .expectedObjectEnd (byte :: rest)
          else skipName fuel enclosing (byte :: rest)

def skipName : Nat → List Bracket → Bytes → Except Failure Bytes
  | 0, _, rest => failAt .expectedValue rest
  | fuel + 1, enclosing, rest =>
      match skipSpace rest with
      | [] => failNext .endInObject []
      | 34 :: rest => do
          let rest ← skipString fuel rest
          skipOpen fuel (.object :: enclosing) (← colon rest)
      | rest => failNext .keyNotString rest

end

/-- Passes over one value. The fuel is more than three times the number of unread bytes. -/
def skip (fuel : Nat) (rest : Bytes) : Except Failure Bytes := skipOpen fuel [] rest

end StreamHttp.Json
