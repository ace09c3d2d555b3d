import BeanMetrics.Recorder.Basic
import BeanMetrics.Text.Split

/-!
Attributes whose names are made of parts. Connections are counted under `<Protocol><Property>`, for
instance `HttpOpen`; statements under `<Statement>Query<Figure>`, for instance
`SelectQueryTotalCount`. The parts become labels, or the name of the metric.
-/

namespace BeanMetrics
namespace Connections

def protocols : List String := ["Psql", "Http", "Transport"]

def properties : List String :=
  ["Open", "Total", "MessagesReceived", "BytesReceived", "MessagesSent", "BytesSent"]

/-- The protocol and the property that an attribute name is made of. -/
def decompose? (attr : String) : Option (String × String) :=
  protocols.findSome? fun protocol =>
    (properties.find? fun property => protocol ++ property == attr).map (protocol, ·)

def lowerAscii (s : String) : String := String.ofList (s.toList.map Char.toLower)

def record (ns attr : String) : Payload → Verdict (List Emission)
  | .number n => .ofOption <| (decompose? attr).map fun (protocol, property) =>
    [.gauge "Number of connections and transferred messages and bytes per protocol"
      ((Sample.unlabeled (ns ++ "_connections") n).withLabels
        [("protocol", lowerAscii protocol), ("property", lowerAscii property)])]
  | .string _ => .declined
  | _ => .notImplemented

end Connections

namespace QueryStats

/-- A figure that is kept for every type of statement, under the last part of attribute names. -/
structure Figure where
  suffix : String
  metric : String
  help : String
  deriving DecidableEq, Repr

def figures : List Figure :=
  [⟨"AffectedRowCount", "query_affected_row_count",
      "The total number of affected rows of all statement executions for a given query type."⟩,
   ⟨"AverageDuration", "query_duration_seconds",
      "The average query duration for a given query type."⟩,
   ⟨"SumOfDurations", "query_sum_of_durations_millis",
      "The sum of durations of all executed queries of a given type, expressed in milliseconds."⟩,
   ⟨"FailedCount", "query_failed_count",
      "The total number of queries that failed to complete successfully for a given query type."⟩,
   ⟨"TotalCount", "query_total_count",
      "The total number of queries that were executed for a given query type."⟩,
   ⟨"Frequency", "queries", "Queries per second for a given query type."⟩]

/-- The type of statement in front of `Query` and the figure's suffix: not empty, and on one
line. -/
def statement? (figure : Figure) (attr : String) : Option String :=
  match Text.dropEnd? ("Query" ++ figure.suffix).toList attr.toList with
  | some statement =>
    if statement = [] ∨ '\n' ∈ statement then none else some (String.ofList statement)
  | none => none

/-- The type of statement and the figure that an attribute name is made of. -/
def decompose? (attr : String) : Option (String × Figure) :=
  figures.findSome? fun figure => (statement? figure attr).map (·, figure)

def record (ns attr : String) : Payload → Verdict (List Emission)
  | .number n => .ofOption <| (decompose? attr).map fun (statement, figure) =>
    [.gauge figure.help
      ((Sample.unlabeled (ns ++ "_" ++ figure.metric) n).withLabel "query" statement)]
  | .string _ => .declined
  | _ => .notImplemented

end QueryStats
end BeanMetrics
