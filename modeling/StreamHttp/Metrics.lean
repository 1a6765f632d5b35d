/-!
Counts of what was served, one for each combination of a name and its labels.
-/

namespace StreamHttp

structure Measure where
  name : String
  labels : List (String × String)
  deriving DecidableEq, Repr

namespace Measure

def render (measure : Measure) : String :=
  measure.name ++ "\x7b"
    ++ ",".intercalate (measure.labels.map fun label => label.1 ++ "=" ++ label.2) ++ "\x7d"

/-- What an answered request counts as. The route is named by its template, not by the path. -/
def ofRequest (method status route : String) : List Measure :=
  [⟨"http_requests_total", [("method", method), ("status", status), ("route", route)]⟩,
    ⟨"http_request_duration_seconds", [("method", method), ("route", route)]⟩]

def ofProtocolError (kind : String) : Measure := ⟨"http_protocol_errors_total", [("kind", kind)]⟩

end Measure

structure Metrics where
  counts : List (Measure × Nat) := []
  deriving DecidableEq, Repr

namespace Metrics

def increase (measure : Measure) : List (Measure × Nat) → List (Measure × Nat)
  | [] => [(measure, 1)]
  | (other, count) :: rest =>
      if other == measure then (other, count + 1) :: rest
      else (other, count) :: increase measure rest

def record (metrics : Metrics) (measure : Measure) : Metrics := ⟨increase measure metrics.counts⟩

def recordAll (metrics : Metrics) (measures : List Measure) : Metrics :=
  measures.foldl record metrics

end Metrics

end StreamHttp
