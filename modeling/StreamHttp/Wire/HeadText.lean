import StreamHttp.Exchange.Request
import StreamHttp.Wire.FramingError

/-!
The text of a request head: a request line of three words and header lines, without the blank line
that ends them. Lines end with CR LF or with LF alone, and no line continues the one before.
-/

namespace StreamHttp

namespace HeadText

/-- The lines of a head, without their ends. -/
def lines (text : List Char) : List (List Char) :=
  (pieces '\n' text).map fun line => (stripEnd ['\r'] line).getD line

def requestLine (line : List Char) : Except FramingError (Method × Target) :=
  match (blankWords line).map String.ofList with
  | [method, target, version] =>
      if !Text.startsWith "HTTP/1." version then .error (.unsupportedVersion version)
      else
        match Method.parse? method with
        | none => .error (.invalidMethod method)
        | some method =>
            match Target.parse target with
            | .error _ => .error (.invalidTarget target)
            | .ok target => .ok (method, target)
  | _ => .error (.invalidRequestLine (String.ofList line))

/-- No ASCII space or control character may stand in a name. -/
def isLineName (name : List Char) : Bool :=
  !name.isEmpty &&
    (Bytes.ofChars name).all fun byte => !byte.isAsciiSpace && !byte.isAsciiControl

def headerLine (line : List Char) : Except FramingError (String × String) :=
  match line with
  | ' ' :: _ => .error (.invalidHeader "obsolete line folding is not supported")
  | '\t' :: _ => .error (.invalidHeader "obsolete line folding is not supported")
  | line =>
      match cut ':' line with
      | none => .error (.invalidHeader ("missing colon in " ++ quoted (String.ofList line)))
      | some (name, value) =>
          if isLineName name then .ok (String.ofList name, String.ofList (trimBlank value))
          else .error (.invalidHeader ("invalid name " ++ quoted (String.ofList name)))

def headers : List (List Char) → Except FramingError Headers := fun lines => do
  let pairs ← (lines.filter fun line => !line.isEmpty).mapM headerLine
  return Headers.ofPairs pairs

def parse (head : Bytes) : Except FramingError Head :=
  match Utf8.decode? head with
  | none => .error (.invalidHeader "header block is not valid UTF-8")
  | some text => do
      let all := lines text.toList
      let (method, target) ← requestLine (all.headD [])
      let headers ← headers (all.drop 1)
      return Head.make method target headers

end HeadText

namespace Head

def isNegative (text : String) : Bool :=
  match text.toList with
  | '-' :: digits => !digits.isEmpty && digits.all fun char => (Numeral.digitValue? char).isSome
  | _ => false

def agree (length : Option Nat) (text : String) : Except FramingError (Option Nat) :=
  if isNegative text then .ok length
  else
    match Numeral.natural u64Max text.toList with
    | .error _ => .error (.invalidContentLength text)
    | .ok value =>
        match length with
        | none => .ok (some value)
        | some other =>
            if other == value then .ok (some value) else .error .conflictingContentLength

/-- The length of the body, if one is announced. Repeated lengths must agree; a negative one means
that there is no body. -/
def bodyLength (head : Head) : Except FramingError (Option Nat) :=
  ((head.headers.getAll "Content-Length").flatMap (Text.piecesOf ',')).foldlM
    (fun length piece => agree length (Text.trim piece)) none

end Head

end StreamHttp
