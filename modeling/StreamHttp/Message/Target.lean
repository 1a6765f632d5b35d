import StreamHttp.Text.Pieces
import StreamHttp.Text.Utf8

/-!
Request targets: a path with an optional query, an authority alone, or a whole address with scheme,
authority and path. A fragment is checked for nothing and dropped. Each part admits its own set of
bytes; bytes outside ASCII may stand in paths and queries.
-/

namespace StreamHttp

structure Target where
  scheme : Option String := none
  authority : Option String := none
  path : String
  query : Option String := none
  deriving DecidableEq, Repr

namespace Target

inductive Problem where
  | empty
  | tooLong
  | schemeTooLong
  | invalidCharacter
  | invalidFormat
  | invalidAuthority
  deriving DecidableEq, Repr

def Problem.message : Problem → String
  | .empty => "empty string"
  | .tooLong => "uri too long"
  | .schemeTooLong => "scheme too long"
  | .invalidCharacter => "invalid uri character"
  | .invalidFormat => "invalid format"
  | .invalidAuthority => "invalid authority"

def lengthLimit : Nat := 65534

def schemeLimit : Nat := 64

def render (target : Target) : String :=
  ((target.scheme.map (· ++ "://")).getD "") ++ target.authority.getD "" ++ target.path
    ++ ((target.query.map ("?" ++ ·)).getD "")

def isPathByte (byte : Byte) : Bool :=
  byte == 0x21 || (0x24 ≤ byte && byte ≤ 0x3B) || byte == 0x3D || (0x40 ≤ byte && byte ≤ 0x5F)
    || (0x61 ≤ byte && byte ≤ 0x7A) || byte == 0x7C || byte == 0x7E || byte == 0x22 || byte == 0x7B
    || byte == 0x7D || 0x80 ≤ byte

def isQueryByte (byte : Byte) : Bool :=
  byte == 0x21 || (0x24 ≤ byte && byte ≤ 0x3B) || byte == 0x3D || (0x3F ≤ byte && byte ≤ 0x7E)
    || 0x80 ≤ byte

def isSchemeByte (byte : Byte) : Bool :=
  byte.isAlphanumeric || [43, 45, 46, 126].contains byte

def isAuthorityByte (byte : Byte) : Bool :=
  byte.isAlphanumeric ||
    [33, 36, 38, 39, 40, 41, 42, 43, 44, 45, 46, 58, 59, 61, 64, 91, 93, 95, 126].contains byte

def textOf (bytes : Bytes) : Except Problem String :=
  match Utf8.decode? bytes with
  | some text => .ok text
  | none => .error .invalidCharacter

def admitted (admits : Byte → Bool) : Bytes → Except Problem Bytes
  | [] => .ok []
  | byte :: rest =>
      if byte == 35 then .ok []
      else if admits byte then (admitted admits rest).map (byte :: ·)
      else .error .invalidCharacter

/-- Path and query; a missing path is the root. -/
def pathAndQuery (input : Bytes) : Except Problem (String × Option String) := do
  let path := input.takeWhile fun byte => byte != 63 && byte != 35
  let rest := input.dropWhile fun byte => byte != 63 && byte != 35
  let path ← admitted isPathByte path
  let query ← match rest with
    | 63 :: rest => do .ok (some (← admitted isQueryByte rest))
    | _ => .ok none
  let path ← textOf path
  let query ← match query with
    | some query => do .ok (some (← textOf query))
    | none => .ok none
  .ok (if path.isEmpty then "/" else path, query)

/-- What has been seen of an authority: colons, a percent sign and brackets since the last mark that
clears them, and whether the last byte was an at sign. -/
structure AuthorityScan where
  colons : Nat := 0
  percent : Bool := false
  opened : Bool := false
  closed : Bool := false
  atSign : Bool := false

def AuthorityScan.finish (scan : AuthorityScan) : Except Problem Unit :=
  if scan.opened != scan.closed || scan.colons > 1 || scan.atSign || scan.percent then
    .error .invalidAuthority
  else .ok ()

def scanAuthority (scan : AuthorityScan) : Bytes → Except Problem Unit
  | [] => scan.finish
  | byte :: rest =>
      if byte == 47 || byte == 63 || byte == 35 then scan.finish
      else
        let scan := { scan with atSign := byte == 64 }
        if byte == 58 then
          if scan.colons ≥ 8 then .error .invalidAuthority
          else scanAuthority { scan with colons := scan.colons + 1 } rest
        else if byte == 91 then
          if scan.percent || scan.opened then .error .invalidAuthority
          else scanAuthority { scan with opened := true } rest
        else if byte == 93 then
          if !scan.opened || scan.closed then .error .invalidAuthority
          else scanAuthority { scan with closed := true, colons := 0, percent := false } rest
        else if byte == 64 then scanAuthority { scan with colons := 0, percent := false } rest
        else if byte == 37 then scanAuthority { scan with percent := true } rest
        else if isAuthorityByte byte then scanAuthority scan rest
        else .error .invalidCharacter

def splitAuthority (input : Bytes) : Except Problem (Bytes × Bytes) := do
  if input.isEmpty then .error .empty
  scanAuthority {} input
  let belongs (byte : Byte) : Bool := byte != 47 && byte != 63 && byte != 35
  .ok (input.takeWhile belongs, input.dropWhile belongs)

def lowerBytes (input : Bytes) : Bytes :=
  input.map fun byte => if 65 ≤ byte && byte ≤ 90 then byte + 32 else byte

/-- A scheme at the front with the address behind it, or `none` when there is no scheme. -/
def splitScheme (input : Bytes) : Except Problem (Option (Bytes × Bytes)) :=
  let http := Bytes.ofString "http"
  let https := Bytes.ofString "https"
  let marks := Bytes.ofString "://"
  match stripStart (http ++ marks) (lowerBytes (input.take 7)) with
  | some _ => .ok (some (http, input.drop 7))
  | none =>
      match stripStart (https ++ marks) (lowerBytes (input.take 8)) with
      | some _ => .ok (some (https, input.drop 8))
      | none =>
          let scheme := input.takeWhile isSchemeByte
          match stripStart marks (input.drop scheme.length) with
          | some rest =>
              if input.length ≤ 3 then .ok none
              else if scheme.length > schemeLimit then .error .schemeTooLong
              else .ok (some (scheme, rest))
          | none => .ok none

def parseFull (input : Bytes) : Except Problem Target := do
  match ← splitScheme input with
  | none =>
      let (authority, rest) ← splitAuthority input
      if rest.isEmpty then .ok { authority := some (← textOf authority), path := "" }
      else .error .invalidFormat
  | some (scheme, rest) =>
      let (authority, rest) ← splitAuthority rest
      if authority.isEmpty then .error .invalidFormat
      let (path, query) ← pathAndQuery rest
      .ok { scheme := some (← textOf scheme), authority := some (← textOf authority), path, query }

def parse (text : String) : Except Problem Target :=
  let input := Bytes.ofString text
  if input.length > lengthLimit then .error .tooLong
  else
    match input with
    | [] => .error .empty
    | [47] => .ok { path := "/" }
    | [42] => .ok { path := "*" }
    | [byte] => do
        let (authority, rest) ← splitAuthority [byte]
        if rest.isEmpty then .ok { authority := some (← textOf authority), path := "" }
        else .error .invalidCharacter
    | 47 :: rest => do
        let (path, query) ← pathAndQuery (47 :: rest)
        .ok { path, query }
    | input => parseFull input

end Target

end StreamHttp
