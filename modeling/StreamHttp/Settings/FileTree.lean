import StreamHttp.Bytes
import StreamHttp.Text.Pieces

/-!
Trees of files. A path is walked name by name, and the first step that cannot be taken tells why
there is no text at it.
-/

namespace StreamHttp

inductive FileTree where
  | file (content : String)
  | directory (entries : List (String × FileTree))

namespace FileTree

inductive Problem where
  | holdsNul
  | nameTooLong
  | notFound
  | notDirectory
  | isDirectory
  deriving DecidableEq, Repr

def Problem.message : Problem → String
  | .holdsNul => "file name contained an unexpected NUL byte"
  | .nameTooLong => "File name too long (os error 36)"
  | .notFound => "No such file or directory (os error 2)"
  | .notDirectory => "Not a directory (os error 20)"
  | .isDirectory => "Is a directory (os error 21)"

def pathLimit : Nat := 4095

def nameLimit : Nat := 255

def sizeOfText (text : String) : Nat := (Bytes.ofString text).length

/-- Walks on from a place that lies in the directories of the trail, the innermost first. The root
is its own parent, and a name without a character stays where it is. -/
def walk (trail : List FileTree) (here : FileTree) : List String → Except Problem FileTree
  | [] => .ok here
  | name :: rest =>
      match here with
      | .file _ => .error .notDirectory
      | .directory entries =>
          if name == "" || name == "." then walk trail here rest
          else if name == ".." then
            match trail with
            | [] => walk [] here rest
            | parent :: trail => walk trail parent rest
          else if nameLimit < sizeOfText name then .error .nameTooLong
          else
            match entries.find? (·.1 == name) with
            | none => .error .notFound
            | some found => walk (here :: trail) found.2 rest

/-- The text at a path. A path that does not begin with a slash begins at `start`. -/
def read (root : FileTree) (start path : String) : Except Problem String :=
  if path.toList.contains '\x00' then .error .holdsNul
  else if path.isEmpty then .error .notFound
  else if pathLimit < sizeOfText path then .error .nameTooLong
  else
    let whole := if Text.startsWith "/" path then path else start ++ "/" ++ path
    match walk [] root (Text.piecesOf '/' whole) with
    | .error problem => .error problem
    | .ok (.directory _) => .error .isDirectory
    | .ok (.file content) => .ok content

end FileTree

end StreamHttp
