import StreamHttp.Wire.HeadText

/-!
Reading requests off a session, one at a time. Bytes read behind the end of a head are put back. A
head that is too large is skipped up to its end, so that reading goes on at a request line.
-/

namespace StreamHttp.Decoder

def chunkSize : Nat := 1024

/-- Drops the line ends in front of a request line. -/
def skipBlankLines (buffer : Bytes) : Bytes :=
  buffer.dropWhile fun byte => byte == Byte.cr || byte == Byte.lf

/-- What has been read of a head: its finished lines, and the line behind them. Both are held
backwards. -/
structure HeadPart where
  lines : Bytes := []
  line : Bytes := []
  deriving DecidableEq, Repr

namespace HeadPart

def bytes (part : HeadPart) : Bytes := (part.line ++ part.lines).reverse

def isEmpty (part : HeadPart) : Bool := part.lines.isEmpty && part.line.isEmpty

/-- Adds bytes up to the blank line that ends the head. Gives the lines in front of that one and
the bytes behind it, or the longer part. -/
def extend (part : HeadPart) : Bytes → Except HeadPart (Bytes × Bytes)
  | [] => .error part
  | byte :: rest =>
      if byte == Byte.lf then
        if part.line.isEmpty || part.line == [Byte.cr] then .ok (part.lines.reverse, rest)
        else extend ⟨byte :: (part.line ++ part.lines), []⟩ rest
      else extend { part with line := byte :: part.line } rest

theorem bytes_extend {part longer : HeadPart} {bytes : Bytes}
    (extended : part.extend bytes = .error longer) : longer.bytes = part.bytes ++ bytes := by
  induction bytes generalizing part with
  | nil =>
      cases extended
      simp
  | cons byte rest induction =>
      simp only [extend] at extended
      split at extended
      · split at extended
        · cases extended
        · simpa [HeadPart.bytes] using induction extended
      · simpa [HeadPart.bytes] using induction extended

/-- What counts of the bytes that come next. -/
def counted (part : HeadPart) (bytes : Bytes) : Bytes :=
  if part.isEmpty then skipBlankLines bytes else bytes

/-- The length of the unfinished line, without its carriage returns. -/
def lineLength (part : HeadPart) : Nat := part.line.countP (· != Byte.cr)

end HeadPart

/-- What is left behind the blank line that ends a head, given the length of the line so far; or the
length of the unfinished line. -/
def scanHeadEnd (length : Nat) : Bytes → Except Nat Bytes
  | [] => .error length
  | byte :: rest =>
      if byte == Byte.lf then if length == 0 then .ok rest else scanHeadEnd 0 rest
      else if byte == Byte.cr then scanHeadEnd length rest
      else scanHeadEnd (length + 1) rest

/-- Discards the rest of a head, whose unfinished line has the given length. -/
def skipHead (length : Nat) (session : Session) : Except FramingError Unit × Session :=
  match _reading : session.read chunkSize with
  | (.error message, session) => (.error (.io message), session)
  | (.ok [], session) => (.ok (), session)
  | (.ok (byte :: chunk), session) =>
      match scanHeadEnd length (byte :: chunk) with
      | .ok rest => (.ok (), session.unread rest)
      | .error length => skipHead length session
termination_by session.content.length
decreasing_by exact Session.length_content_read _reading

/-- Reads up to the blank line that ends a head, for which there is room for so many more bytes;
nothing when the input ends before any head. -/
def gatherHead (size room : Nat) (part : HeadPart) (session : Session) :
    Except FramingError (Option Bytes) × Session :=
  if room == 0 then
    match skipHead part.lineLength session with
    | (.error error, session) => (.error error, session)
    | (.ok (), session) => (.error (.headerTooLarge size), session)
  else
    match _reading : session.read (min room chunkSize) with
    | (.error message, session) => (.error (.io message), session)
    | (.ok [], session) => (if part.isEmpty then .ok none else .error .incomplete, session)
    | (.ok (byte :: rest), session) =>
        let counted := part.counted (byte :: rest)
        match part.extend counted with
        | .ok (head, rest) => (.ok (some head), session.unread rest)
        | .error longer => gatherHead size (room - counted.length) longer session
termination_by session.content.length
decreasing_by exact Session.length_content_read _reading

def readHead (size : Nat) (session : Session) : Except FramingError (Option Bytes) × Session :=
  gatherHead size size {} session

/-- A request, and the length of its window on the session. -/
structure Decoded where
  head : Head
  window : Nat
  deriving DecidableEq, Repr

namespace Decoded

def body (decoded : Decoded) : Body :=
  if decoded.window == 0 then Body.empty else Body.ofReader .window (some decoded.window)

def intake (decoded : Decoded) (session : Session) : Intake :=
  ⟨Request.make decoded.head decoded.body, Streams.ofSession session decoded.window⟩

end Decoded

def ofHead (head : Bytes) : Except FramingError Decoded := do
  let head ← HeadText.parse head
  let length ← head.bodyLength
  return ⟨head, length.getD 0⟩

def decode (size : Nat) (session : Session) : Except FramingError (Option Decoded) × Session :=
  match readHead size session with
  | (.error error, session) => (.error error, session)
  | (.ok none, session) => (.ok none, session)
  | (.ok (some head), session) => ((ofHead head).map some, session)

end StreamHttp.Decoder
