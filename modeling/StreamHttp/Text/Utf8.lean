import StreamHttp.Bytes

/-!
Reading UTF-8. The first byte of a character fixes how many bytes follow it and the range of the
second one; a sequence that leaves its range is invalid up to, and not including, the byte that
left it. Strict reading names the first invalid sequence, lossy reading puts one replacement
character for each.
-/

namespace StreamHttp.Utf8

/-- What a first byte announces: the number of bytes that follow, the least and the greatest
second byte, and the bits that the first byte gives to the code point. -/
structure Lead where
  following : Nat
  least : Byte
  greatest : Byte
  bits : Nat
  deriving DecidableEq, Repr

def lead? (byte : Byte) : Option Lead :=
  if byte ≤ 0x7F then some ⟨0, 0x80, 0xBF, byte.toNat⟩
  else if byte < 0xC2 then none
  else if byte ≤ 0xDF then some ⟨1, 0x80, 0xBF, byte.toNat % 32⟩
  else if byte == 0xE0 then some ⟨2, 0xA0, 0xBF, 0⟩
  else if byte == 0xED then some ⟨2, 0x80, 0x9F, 13⟩
  else if byte ≤ 0xEF then some ⟨2, 0x80, 0xBF, byte.toNat % 16⟩
  else if byte == 0xF0 then some ⟨3, 0x90, 0xBF, 0⟩
  else if byte ≤ 0xF3 then some ⟨3, 0x80, 0xBF, byte.toNat % 8⟩
  else if byte == 0xF4 then some ⟨3, 0x80, 0x8F, 4⟩
  else none

inductive Step where
  | char (char : Char) (rest : Bytes)
  /-- The first `length` bytes can not be continued by the byte after them. -/
  | invalid (length : Nat) (rest : Bytes)
  /-- The input ends inside a character. -/
  | incomplete (length : Nat)

/-- Reads the bytes that follow a first byte; `taken` counts the bytes read so far. -/
def tail (following : Nat) (least greatest : Byte) (bits taken : Nat) (input : Bytes) : Step :=
  match following, input with
  | 0, rest => .char (Char.ofNat bits) rest
  | _ + 1, [] => .incomplete taken
  | following + 1, byte :: rest =>
      if least ≤ byte && byte ≤ greatest then
        tail following 0x80 0xBF (bits * 64 + byte.toNat % 64) (taken + 1) rest
      else .invalid taken (byte :: rest)

def step (byte : Byte) (rest : Bytes) : Step :=
  match lead? byte with
  | none => .invalid 1 rest
  | some lead => tail lead.following lead.least lead.greatest lead.bits 1 rest

theorem tail_char_length {following : Nat} {least greatest : Byte} {bits taken : Nat}
    {input rest : Bytes} {char : Char}
    (read : tail following least greatest bits taken input = .char char rest) :
    rest.length ≤ input.length := by
  induction following generalizing least greatest bits taken input with
  | zero => simp_all [tail]
  | succ following induction =>
      cases input with
      | nil => simp [tail] at read
      | cons byte input =>
          simp only [tail] at read
          split at read
          · have := induction read
            simp only [List.length_cons]
            omega
          · cases read

theorem tail_invalid_length {following : Nat} {least greatest : Byte} {bits taken length : Nat}
    {input rest : Bytes}
    (read : tail following least greatest bits taken input = .invalid length rest) :
    rest.length ≤ input.length := by
  induction following generalizing least greatest bits taken input with
  | zero => simp [tail] at read
  | succ following induction =>
      cases input with
      | nil => simp [tail] at read
      | cons byte input =>
          simp only [tail] at read
          split at read
          · have := induction read
            simp only [List.length_cons]
            omega
          · cases read
            simp

theorem step_char_length {byte : Byte} {input rest : Bytes} {char : Char}
    (read : step byte input = .char char rest) : rest.length ≤ input.length := by
  simp only [step] at read
  split at read
  · cases read
  · exact tail_char_length read

theorem step_invalid_length {byte : Byte} {input rest : Bytes} {length : Nat}
    (read : step byte input = .invalid length rest) : rest.length ≤ input.length := by
  simp only [step] at read
  split at read
  · cases read
    simp
  · exact tail_invalid_length read

/-- Why some bytes are not UTF-8: everything before `index` is. -/
inductive Problem where
  | invalid (length index : Nat)
  | incomplete (index : Nat)
  deriving DecidableEq, Repr

def Problem.message : Problem → String
  | .invalid length index =>
      "invalid utf-8 sequence of " ++ toString length ++ " bytes from index " ++ toString index
  | .incomplete index => "incomplete utf-8 byte sequence from index " ++ toString index

def decodeFrom (index : Nat) (input : Bytes) : Except Problem (List Char) :=
  match input with
  | [] => .ok []
  | byte :: input =>
      match read : step byte input with
      | .char char rest =>
          have := step_char_length read
          (decodeFrom (index + char.utf8Size) rest).map (char :: ·)
      | .invalid length _ => .error (.invalid length index)
      | .incomplete _ => .error (.incomplete index)
termination_by input.length
decreasing_by simp only [List.length_cons]; omega

def decode (input : Bytes) : Except Problem String := (decodeFrom 0 input).map String.ofList

def decode? (input : Bytes) : Option String := (decode input).toOption

def lossyChars (input : Bytes) : List Char :=
  match input with
  | [] => []
  | byte :: input =>
      match read : step byte input with
      | .char char rest =>
          have := step_char_length read
          char :: lossyChars rest
      | .invalid _ rest =>
          have := step_invalid_length read
          '\uFFFD' :: lossyChars rest
      | .incomplete _ => ['\uFFFD']
termination_by input.length
decreasing_by all_goals simp only [List.length_cons]; omega

def decodeLossy (input : Bytes) : String := String.ofList (lossyChars input)

end StreamHttp.Utf8
