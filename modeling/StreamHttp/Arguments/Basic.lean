import StreamHttp.Failure.Basic
import StreamHttp.Json.Shape
import StreamHttp.Text.Annotated

/-!
The values bound to the parameters of a handler, in the order of binding. Text converts to more than
one type: it is first taken as a string, then read as the text of a value.
-/

namespace StreamHttp

inductive Argument where
  | text (text : String)
  | json (value : Json)
  | bytes (bytes : Bytes)
  | stream (body : Body)

namespace Argument

/-- The value an argument is converted from; a stream has none. -/
def toJson? : Argument → Option Json
  | .text content => some (.string content)
  | .json value => some value
  | .bytes content => (Json.parse content).toOption
  | .stream _ => none

def convert (shape : Json.Shape) : Argument → Except String Json
  | .text content =>
      match Json.fit shape (.string content) with
      | .ok value => .ok value
      | .error _ => shape.parseText content
  | other =>
      match other.toJson? with
      | some value => Json.fit shape value
      | none => .error "value is not structured"

def annotated : Argument → String
  | .text content => "Text(" ++ quoted content ++ ")"
  | .json value => "Json(" ++ value.annotated ++ ")"
  | .bytes content => "Bytes(" ++ toString content.length ++ ")"
  | .stream body => "Stream(" ++ body.annotated ++ ")"

end Argument

structure Arguments where
  entries : List (String × Argument) := []

namespace Arguments

def empty : Arguments := {}

def place (name : String) (value : Argument) : List (String × Argument) → List (String × Argument)
  | [] => [(name, value)]
  | (other, held) :: rest =>
      if other == name then (other, value) :: rest else (other, held) :: place name value rest

/-- Binds a name; one that was bound keeps its place. -/
def insert (arguments : Arguments) (name : String) (value : Argument) : Arguments :=
  ⟨place name value arguments.entries⟩

def value? (arguments : Arguments) (name : String) : Option Argument :=
  (arguments.entries.find? (·.1 == name)).map Prod.snd

def contains (arguments : Arguments) (name : String) : Bool := (arguments.value? name).isSome

def size (arguments : Arguments) : Nat := arguments.entries.length

def isEmpty (arguments : Arguments) : Bool := arguments.entries.isEmpty

def ofTexts (texts : List (String × String)) : Arguments :=
  texts.foldl (fun arguments pair => arguments.insert pair.1 (.text pair.2)) empty

theorem value_insert_same (arguments : Arguments) (name : String) (value : Argument) :
    (arguments.insert name value).value? name = some value := by
  simp only [value?, insert]
  induction arguments.entries with
  | nil => simp [place]
  | cons entry rest induction =>
      simp only [place]
      split <;> simp_all

def text? (arguments : Arguments) (name : String) : Option String :=
  match arguments.value? name with
  | some (.text content) => some content
  | some (.json (.string content)) => some content
  | _ => none

def bytes? (arguments : Arguments) (name : String) : Option Bytes :=
  match arguments.value? name with
  | some (.bytes content) => some content
  | some (.text content) => some (Bytes.ofString content)
  | _ => none

def get (arguments : Arguments) (shape : Json.Shape) (name : String) : Except BindingError Json :=
  match arguments.value? name with
  | none => .error (.missing name)
  | some argument => (argument.convert shape).mapError (.conversion name)

def get? (arguments : Arguments) (shape : Json.Shape) (name : String) :
    Except BindingError (Option Json) :=
  if arguments.contains name then (arguments.get shape name).map some else .ok none

/-- Moves the body of a stream argument out of the arguments. -/
def takeStream (name : String) (arguments : Arguments) : Option Body × Arguments :=
  match go arguments.entries with
  | some (body, entries) => (some body, ⟨entries⟩)
  | none => (none, arguments)
where
  go : List (String × Argument) → Option (Body × List (String × Argument))
    | [] => none
    | (other, .stream body) :: rest =>
        if other == name then some (body, rest)
        else (go rest).map fun found => (found.1, (other, .stream body) :: found.2)
    | entry :: rest => (go rest).map fun found => (found.1, entry :: found.2)

def annotated (arguments : Arguments) : String :=
  Annotated.record "Arguments"
    [("values", Annotated.list (arguments.entries.map fun entry =>
      "(" ++ quoted entry.1 ++ ", " ++ entry.2.annotated ++ ")"))]

end Arguments

end StreamHttp
