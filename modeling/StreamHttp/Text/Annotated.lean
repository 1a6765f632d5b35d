import StreamHttp.Text.Quoted

/-!
The annotated notation in which values are shown in diagnostics: records with named fields, lists,
options and maps of texts.
-/

namespace StreamHttp.Annotated

def option {α : Type} (text : α → String) : Option α → String
  | none => "None"
  | some value => "Some(" ++ text value ++ ")"

def list (items : List String) : String := "[" ++ ", ".intercalate items ++ "]"

def texts (items : List String) : String := list (items.map quoted)

def fieldList (fields : List (String × String)) : String :=
  ", ".intercalate (fields.map fun field => field.1 ++ ": " ++ field.2)

def record (name : String) (fields : List (String × String)) : String :=
  name ++ " \x7b " ++ fieldList fields ++ " \x7d"

def openRecord (name : String) (fields : List (String × String)) : String :=
  name ++ " \x7b " ++ fieldList fields ++ ", .. \x7d"

def pairs (entries : List (String × String)) : String :=
  "\x7b" ++ fieldList (entries.map fun entry => (quoted entry.1, quoted entry.2)) ++ "\x7d"

end StreamHttp.Annotated
