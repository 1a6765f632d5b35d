import StreamHttp.Text.Blank
import StreamHttp.Text.Quoted

/-!
Media types: a lower-case `type/subtype` and parameters. Quotation marks around a parameter's value
are not part of it, and the written form has none.
-/

namespace StreamHttp

structure MediaType where
  essence : String
  parameters : List (String × String) := []
  deriving DecidableEq, Repr

namespace MediaType

def json : MediaType := { essence := "application/json" }
def plainText : MediaType := { essence := "text/plain" }
def form : MediaType := { essence := "application/x-www-form-urlencoded" }
def octetStream : MediaType := { essence := "application/octet-stream" }

def trimQuotes (text : String) : String :=
  String.ofList ((text.toList.dropWhile (· == '"')).reverse.dropWhile (· == '"')).reverse

def halves? (essence : String) : Option (String × String) :=
  match Text.cutAt '/' essence with
  | some (kind, subkind) => if kind.isEmpty || subkind.isEmpty then none else some (kind, subkind)
  | none => none

def parameter? (piece : String) : Option (String × String) :=
  (Text.cutAt '=' piece).map fun sides =>
    (Text.asciiLower (Text.trim sides.1), trimQuotes (Text.trim sides.2))

/-- Pieces without `=` are passed over. -/
def parse? (text : String) : Option MediaType :=
  match Text.piecesOf ';' text with
  | [] => none
  | first :: others =>
      let essence := Text.asciiLower (Text.trim first)
      if (halves? essence).isSome then some ⟨essence, others.filterMap parameter?⟩ else none

def invalidMessage (text : String) : String := "invalid media type: " ++ quoted text

def render (media : MediaType) : String :=
  media.parameters.foldl (fun text parameter => text ++ ";" ++ parameter.1 ++ "=" ++ parameter.2)
    media.essence

def parameterOf? (media : MediaType) (name : String) : Option String :=
  (media.parameters.find? fun parameter => Text.sameIgnoringCase parameter.1 name).map Prod.snd

def charset? (media : MediaType) : Option String := media.parameterOf? "charset"

def withCharset (media : MediaType) (charset : String) : MediaType :=
  { media with
    parameters := media.parameters.filter (fun parameter =>
      !Text.sameIgnoringCase parameter.1 "charset") ++ [("charset", charset)] }

def isJson (media : MediaType) : Bool :=
  media.essence == "application/json" || Text.endsWith "+json" media.essence

def isText (media : MediaType) : Bool := Text.startsWith "text/" media.essence

def isForm (media : MediaType) : Bool := media.essence == form.essence

def split (media : MediaType) : String × String :=
  (Text.cutAt '/' media.essence).getD (media.essence, "*")

/-- Equal up to parameters, where `*` stands for any type or subtype. -/
def accepts (left right : MediaType) : Bool :=
  let agree (first second : String) : Bool := first == "*" || second == "*" || first == second
  agree left.split.1 right.split.1 && agree left.split.2 right.split.2

end MediaType

end StreamHttp
