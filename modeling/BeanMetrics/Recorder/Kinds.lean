import BeanMetrics.Recorder.Node
import BeanMetrics.Recorder.Pool
import BeanMetrics.Recorder.Traffic

/-!
The recorders by the kinds of objects that they know. Only the recorder of the node keeps
anything between two attributes; `Recorders` holds that, and a reset forgets it.
-/

namespace BeanMetrics

inductive Recorder where
  | circuitBreakers
  | connections
  | nodeInfo
  | nodeStatus
  | queryStats
  | threadPools
  deriving DecidableEq, Repr

namespace Recorder

def all : List Recorder :=
  [.circuitBreakers, .connections, .nodeInfo, .nodeStatus, .queryStats, .threadPools]

def kind : Recorder → String
  | .circuitBreakers => "CircuitBreakers"
  | .connections => "Connections"
  | .nodeInfo => "NodeInfo"
  | .nodeStatus => NodeStatus.kind
  | .queryStats => "QueryStats"
  | .threadPools => "ThreadPools"

def ofKind? (kind : String) : Option Recorder := all.find? fun r => r.kind = kind

theorem ofKind?_eq_some_iff {kind : String} {recorder : Recorder} :
    ofKind? kind = some recorder ↔ recorder.kind = kind := by
  constructor
  · intro h
    simpa using List.find?_some h
  · rintro rfl
    cases recorder <;> decide

end Recorder

/-- The state of the recorders within a pass. -/
structure Recorders where
  node : NodeIdentity
  deriving DecidableEq, Inhabited, Repr

/-- The state after a consumed value, and what comes of it. -/
structure Recorded where
  recorders : Recorders
  emissions : List Emission
  deriving DecidableEq, Repr

namespace Recorders

def initial : Recorders := ⟨.unknown⟩

def reset (r : Recorders) : Recorders := { r with node := r.node.forget }

theorem reset_eq_initial (r : Recorders) : r.reset = initial := rfl

def handle (r : Recorders) (recorder : Recorder) (ns attr : String) (payload : Payload) :
    Verdict Recorded :=
  match recorder with
  | .circuitBreakers => (Pool.recordBreakers ns payload).map (⟨r, ·⟩)
  | .connections => (Connections.record ns attr payload).map (⟨r, ·⟩)
  | .nodeInfo =>
    (NodeInfo.record r.node ns attr payload).map fun (node, emissions) => ⟨⟨node⟩, emissions⟩
  | .nodeStatus => (NodeStatus.record ns attr payload).map (⟨r, ·⟩)
  | .queryStats => (QueryStats.record ns attr payload).map (⟨r, ·⟩)
  | .threadPools => (Pool.recordThreads ns payload).map (⟨r, ·⟩)

/-- Hands a value to a recorder: what was recorded, nothing if it was declined, or the violation. -/
def record (r : Recorders) (recorder : Recorder) (ns attr : String) (value : AttributeValue) :
    Except RecorderError (Option Recorded) :=
  match value.payload? with
  | none => .ok none
  | some payload =>
    match r.handle recorder ns attr payload with
    | .consumed recorded => .ok (some recorded)
    | .declined => .ok none
    | .notImplemented => .error ⟨recorder.kind, payload.kind, attr⟩

end Recorders
end BeanMetrics
