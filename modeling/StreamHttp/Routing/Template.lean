import StreamHttp.Text.Percent
import StreamHttp.Text.Quoted

/-!
Route templates such as `/pets/{id}` and `/files/{*rest}`. A path counts as the sequence of its
nonempty segments. A variable stands for one segment, a catch-all for all that are left. Of several
templates that match, the more specific one has no catch-all, fewer variables and more literal text.
-/

namespace StreamHttp

/-- The nonempty segments of a path. -/
def pathSegments (path : String) : List String :=
  (Text.piecesOf '/' path).filter fun segment => !segment.isEmpty

inductive Segment where
  | literal (text : String)
  | variable (name : String)
  | catchAll (name : String)
  deriving DecidableEq, Repr

structure Template where
  source : String
  segments : List Segment
  deriving DecidableEq, Repr

namespace Template

inductive Problem where
  | notAbsolute (source : String)
  | catchAllNotLast (source : String)
  | emptyVariable (source : String)
  deriving DecidableEq, Repr

def Problem.message : Problem → String
  | .notAbsolute source => "template " ++ quoted source ++ " must start with '/'"
  | .catchAllNotLast source => "catch-all variable must be the last segment of " ++ quoted source
  | .emptyVariable source => "empty variable name in " ++ quoted source

def braced? (part : String) : Option String :=
  (Text.stripPrefix? "\x7b" part).bind (Text.stripSuffix? "\x7d")

def segmentOf (source part : String) (isLast : Bool) : Except Problem Segment :=
  match braced? part with
  | none => .ok (.literal part)
  | some name =>
      match Text.stripPrefix? "*" name with
      | some rest =>
          if !isLast then .error (.catchAllNotLast source)
          else if rest.isEmpty then .error (.emptyVariable source)
          else .ok (.catchAll rest)
      | none => if name.isEmpty then .error (.emptyVariable source) else .ok (.variable name)

def segmentsOf (source : String) : List String → Except Problem (List Segment)
  | [] => .ok []
  | part :: rest => do
      let first ← segmentOf source part rest.isEmpty
      .ok (first :: (← segmentsOf source rest))

def parse (source : String) : Except Problem Template :=
  if Text.startsWith "/" source then
    (segmentsOf source (pathSegments source)).map fun segments => ⟨source, segments⟩
  else .error (.notAbsolute source)

def variableNames (template : Template) : List String :=
  template.segments.filterMap fun
    | .literal _ => none
    | .variable name => some name
    | .catchAll name => some name

def matchSegments : List Segment → List String → Option (List (String × String))
  | [], [] => some []
  | [], _ :: _ => none
  | .catchAll name :: _, parts => some [(name, Percent.decode (Text.joinWith "/" parts))]
  | .literal _ :: _, [] => none
  | .literal text :: rest, part :: parts => if part == text then matchSegments rest parts else none
  | .variable _ :: _, [] => none
  | .variable name :: rest, part :: parts =>
      (matchSegments rest parts).map fun bound => (name, Percent.decode part) :: bound

/-- The decoded values of the variables, when the path has the form of the template. -/
def match? (template : Template) (path : String) : Option (List (String × String)) :=
  matchSegments template.segments (pathSegments path)

end Template

structure Specificity where
  catchAll : Bool
  variableCount : Nat
  literalLength : Nat
  deriving DecidableEq, Repr

namespace Specificity

/-- Whether the first is strictly more specific than the second. -/
def precedes (left right : Specificity) : Bool :=
  if left.catchAll != right.catchAll then right.catchAll
  else if left.variableCount != right.variableCount then left.variableCount < right.variableCount
  else right.literalLength < left.literalLength

end Specificity

namespace Template

def literalLength : Segment → Nat
  | .literal text => text.utf8ByteSize + 1
  | _ => 0

def specificity (template : Template) : Specificity where
  catchAll := template.segments.any fun
    | .catchAll _ => true
    | _ => false
  variableCount := template.segments.countP fun
    | .variable _ => true
    | _ => false
  literalLength := template.segments.foldr (fun segment length => literalLength segment + length) 0

end Template

end StreamHttp
