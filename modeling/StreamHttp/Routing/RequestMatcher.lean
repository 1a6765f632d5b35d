import StreamHttp.Message.Token
import StreamHttp.Text.Pieces

/-!
Which requests a filter is for: a path pattern, a set of methods, or several conditions at once. A
pattern that ends in `/**` covers a path and everything below it, every other pattern one path.
-/

namespace StreamHttp

inductive PathPattern where
  | exact (path : String)
  | subtree (root : String)
  deriving DecidableEq, Repr

namespace PathPattern

def parse (pattern : String) : PathPattern :=
  match Text.stripSuffix? "/**" pattern with
  | some root => .subtree root
  | none => .exact pattern

def covers (path : String) : PathPattern → Bool
  | .exact only => path == only
  | .subtree root =>
      root.isEmpty || path == root || (Text.stripPrefix? root path).any (Text.startsWith "/")

end PathPattern

inductive RequestMatcher where
  | path (pattern : PathPattern)
  | methods (methods : List Method)
  | all (conditions : List RequestMatcher)

namespace RequestMatcher

mutual

def admits (method : Method) (path : String) : RequestMatcher → Bool
  | .path pattern => pattern.covers path
  | .methods chosen => chosen.contains method
  | .all conditions => admitsAll method path conditions

def admitsAll (method : Method) (path : String) : List RequestMatcher → Bool
  | [] => true
  | condition :: rest => admits method path condition && admitsAll method path rest

end

end RequestMatcher

end StreamHttp
