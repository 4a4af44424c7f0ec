import SnippetGauge.Json.Value
import SnippetGauge.Language

set_option autoImplicit false

namespace SnippetGauge.Service

inductive Event where
  | accepted
  | rejectedEmpty
  | failed
  | analyzed (language : Language)
  deriving DecidableEq, Repr

structure Telemetry where
  requestsTotal : Nat
  requestsFailed : Nat
  rejectedEmpty : Nat
  languages : Language → Nat

namespace Telemetry

def zero : Telemetry := ⟨0, 0, 0, fun _ => 0⟩

def record (counts : Telemetry) : Event → Telemetry
  | .accepted => { counts with requestsTotal := counts.requestsTotal + 1 }
  | .rejectedEmpty => { counts with rejectedEmpty := counts.rejectedEmpty + 1 }
  | .failed => { counts with requestsFailed := counts.requestsFailed + 1 }
  | .analyzed language =>
    { counts with languages := fun other => counts.languages other + if other = language then 1 else 0 }

def recordAll (counts : Telemetry) (events : List Event) : Telemetry := events.foldl record counts

theorem recordAll_append (counts : Telemetry) (first second : List Event) :
    counts.recordAll (first ++ second) = (counts.recordAll first).recordAll second :=
  List.foldl_append

def toJson (counts : Telemetry) : Json :=
  .obj [("requests_total", .int counts.requestsTotal),
    ("requests_failed", .int counts.requestsFailed),
    ("rejected_empty", .int counts.rejectedEmpty),
    ("languages", .obj (Language.all.map fun language =>
      (language.name, .int (counts.languages language))))]

end Telemetry

end SnippetGauge.Service
