import StreamHttp.Text.Pieces

/-!
Cookies: the pairs that a request carries and the line that a response sets one with.
-/

namespace StreamHttp

structure Cookie where
  name : String
  value : String
  path : Option String := none
  maxAgeMillis : Option Nat := none
  httpOnly : Bool := false
  secure : Bool := false
  deriving DecidableEq, Repr

namespace Cookie

/-- The value of a Set-Cookie header; the age is in whole seconds. -/
def render (cookie : Cookie) : String :=
  cookie.name ++ "=" ++ cookie.value
    ++ (cookie.path.map fun path => "; Path=" ++ path).getD ""
    ++ (cookie.maxAgeMillis.map fun age => "; Max-Age=" ++ toString (age / 1000)).getD ""
    ++ (if cookie.httpOnly then "; HttpOnly" else "")
    ++ (if cookie.secure then "; Secure" else "")

end Cookie

/-- The cookies of a request, each name once, at the place of its first occurrence. -/
structure Cookies where
  list : List Cookie := []
  deriving DecidableEq, Repr

namespace Cookies

def replace (cookie : Cookie) : List Cookie → List Cookie
  | [] => [cookie]
  | other :: rest =>
      if other.name == cookie.name then cookie :: rest else other :: replace cookie rest

def put (cookies : Cookies) (cookie : Cookie) : Cookies := ⟨replace cookie cookies.list⟩

def get? (cookies : Cookies) (name : String) : Option Cookie := cookies.list.find? (·.name == name)

def size (cookies : Cookies) : Nat := cookies.list.length

def isEmpty (cookies : Cookies) : Bool := cookies.list.isEmpty

/-- Cuts at every semicolon that a space follows. -/
def cutPairs : List Char → List (List Char)
  | [] => [[]]
  | ';' :: ' ' :: rest => [] :: cutPairs rest
  | char :: rest =>
      match cutPairs rest with
      | [] => [[char]]
      | first :: others => (char :: first) :: others

def pair? (piece : List Char) : Option Cookie :=
  match cut '=' piece with
  | some ([], _) => none
  | some (name, value) => some { name := String.ofList name, value := String.ofList value }
  | none => none

/-- Reads all Cookie headers; of a repeated name the last value counts. -/
def parse (headers : List String) : Cookies :=
  (headers.flatMap fun header => (cutPairs header.toList).filterMap pair?).foldl put {}

end Cookies

end StreamHttp
