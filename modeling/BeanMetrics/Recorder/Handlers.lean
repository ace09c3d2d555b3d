import BeanMetrics.Metric.FamilyMap
import BeanMetrics.Recorder.Kinds

/-!
The recorders at work, one step after the other, on what they remember and on a sink that takes
emissions one at a time. A recorder has a handler for every form of value; where it brings none of
its own, the form is refused. What a handler has done before it declines or refuses stays done, so
it is for the handlers to look before they act.
-/

namespace BeanMetrics

/-- Something that takes emissions one after the other. -/
class Sink (σ : Type) where
  accept : σ → Emission → σ

/-- The sink after a sequence of emissions. -/
def Sink.acceptAll {σ : Type} [Sink σ] (sink : σ) (emissions : List Emission) : σ :=
  emissions.foldl Sink.accept sink

instance : Sink FamilyMap := ⟨FamilyMap.accept⟩

/-- A log keeps all emissions in the order in which they came. -/
instance : Sink (List Emission) := ⟨fun log e => log ++ [e]⟩

/-- What the recorders work on. -/
structure Desk (σ : Type) where
  recorders : Recorders
  sink : σ
  deriving Repr

/-- Work at a desk, which may end with a violation and then leaves the desk as it is by then. -/
abbrev Work (σ α : Type) := ExceptT RecorderError (StateM (Desk σ)) α

namespace Work

variable {σ α : Type}

/-- The outcome of some work, and the desk after it. -/
def perform (work : Work σ α) (desk : Desk σ) : Except RecorderError α × Desk σ :=
  (work.run.run desk).run

def emit [Sink σ] (e : Emission) : Work σ Unit :=
  modify fun desk => { desk with sink := Sink.accept desk.sink e }

def learn (update : NodeIdentity → NodeIdentity) : Work σ Unit :=
  modify fun desk => { desk with recorders := { desk.recorders with node := update desk.recorders.node } }

def refuse (kind : String) (form : ValueKind) (attr : String) : Work σ α :=
  throw ⟨kind, form, attr⟩

end Work

/-- What a recorder does with a value under a namespace and an attribute name: one handler for each
form of value. They answer whether they have consumed the value. -/
structure Handlers (σ : Type) where
  kind : String
  number : String → String → Binary64 → Work σ Bool
  string : String → String → String → Work σ Bool
  composite : String → String → CompositeRecord → Work σ Bool :=
    fun _ attr _ => .refuse kind .composite attr
  compositeArray : String → String → List CompositeRecord → Work σ Bool :=
    fun _ attr _ => .refuse kind .compositeArray attr

namespace Handlers

open Work

variable {σ : Type} [Sink σ]

/-- Goes through the record of a pool; a record without a name is declined. -/
def recordPool (metric help : String) (record : CompositeRecord) : Work σ Bool := do
  let some name := (KeyMap.get? "name" record).bind AttributeValue.string? | return false
  let pool := Text.lower name
  for (property, value) in record do
    let some number := value.number? | continue
    emit (.gauge help (((Sample.unlabeled metric number).withLabel "name" pool).withLabel
      "property" property))
  return true

/-- Recorders of which every value is the record of a pool. -/
def pools (kind suffix help : String) : Handlers σ where
  kind
  number := fun _ attr _ => refuse kind .number attr
  string := fun _ attr _ => refuse kind .string attr
  composite := fun ns _ record => recordPool (ns ++ suffix) help record

def connections : Handlers σ where
  kind := Recorder.connections.kind
  number := fun ns attr n => do
    let some (protocol, property) := Connections.decompose? attr | return false
    emit (.gauge "Number of connections and transferred messages and bytes per protocol"
      (((Sample.unlabeled (ns ++ "_connections") n).withLabel
        "protocol" (Connections.lowerAscii protocol)).withLabel
        "property" (Connections.lowerAscii property)))
    return true
  string := fun _ _ _ => return false

def queryStats : Handlers σ where
  kind := Recorder.queryStats.kind
  number := fun ns attr n => do
    let some (statement, figure) := QueryStats.decompose? attr | return false
    emit (.gauge figure.help
      ((Sample.unlabeled (ns ++ "_" ++ figure.metric) n).withLabel "query" statement))
    return true
  string := fun _ _ _ => return false

def nodeStatus : Handlers σ where
  kind := Recorder.nodeStatus.kind
  number := fun ns attr n => do
    if attr ≠ NodeStatus.readyAttribute then return false
    emit (.gauge "Whether the node is ready to process requests (1) or not (0)."
      (.unlabeled (ns ++ "_ready") n))
    return true
  string := fun _ _ _ => return false

/-- Emits the identity of the node if it is complete and has not been emitted yet. -/
def introduceIfComplete (ns : String) : Work σ Unit := do
  let node := (← get).recorders.node
  if node.emitted then return
  let some id := node.id | return
  let some name := node.name | return
  emit ⟨((Sample.unlabeled (ns ++ "_node_info") .one).withLabel "id" id).withLabel "name" name,
    .untyped, "Node information."⟩
  learn fun node => { node with emitted := true }

/-- Goes through one shard: its labels are copied to the sample of each of its other numbers. -/
def recordShard (ns : String) (shard : CompositeRecord) : Work σ Unit := do
  let labels := NodeInfo.shardLabels.map fun (field, label) =>
    (label, NodeInfo.fieldLabel shard field)
  for (property, value) in shard do
    if NodeInfo.shardLabels.any (·.1 = property) then continue
    let some number := value.number? | continue
    let sample := ((Sample.unlabeled (ns ++ "_node") number).withLabel
      "name" "shard_info").withLabel "property" property
    emit (.gauge NodeInfo.shardHelp
      (labels.foldl (fun sample (label, text) => sample.withLabel label text) sample))

def nodeInfo : Handlers σ where
  kind := Recorder.nodeInfo.kind
  number := fun ns attr n => do
    if attr ≠ "ClusterStateVersion" then return false
    emit (.gauge "The current version of the cluster state."
      (.unlabeled (ns ++ "_cluster_state_version") n))
    return true
  string := fun ns attr value => do
    if NodeInfo.sameIgnoringCase attr "NodeId" then
      learn fun node => { node with id := some value }
    else if NodeInfo.sameIgnoringCase attr "NodeName" then
      learn fun node => { node with name := some value }
    else return false
    introduceIfComplete ns
    return true
  composite := fun ns attr record => do
    if attr ≠ "ShardStats" then return false
    for (property, value) in record do
      let some number := value.number? | continue
      emit (.gauge NodeInfo.shardHelp (((Sample.unlabeled (ns ++ "_node") number).withLabel
        "name" "shard_stats").withLabel "property" property))
    return true
  compositeArray := fun ns attr shards => do
    if attr ≠ "ShardInfo" then return false
    for shard in shards do
      recordShard ns shard
    return true

end Handlers

namespace Recorder

variable {σ : Type} [Sink σ]

def handlers : Recorder → Handlers σ
  | .circuitBreakers =>
    .pools circuitBreakers.kind "_circuitbreakers" "Statistics of circuit breakers"
  | .connections => .connections
  | .nodeInfo => .nodeInfo
  | .nodeStatus => .nodeStatus
  | .queryStats => .queryStats
  | .threadPools => .pools threadPools.kind "_threadpools" "Statistics of thread pools"

/-- Hands a value to the handler for its form. -/
def call (recorder : Recorder) (ns attr : String) : Payload → Work σ Bool
  | .number n => recorder.handlers.number ns attr n
  | .string s => recorder.handlers.string ns attr s
  | .composite record => recorder.handlers.composite ns attr record
  | .compositeArray records => recorder.handlers.compositeArray ns attr records

end Recorder

/-- What may be asked of the recorders. -/
inductive Call where
  | hand (recorder : Recorder) (ns attr : String) (payload : Payload)
  | reset
  deriving Repr

namespace Desk

variable {σ : Type} [Sink σ]

/-- The answer to a call, none to a reset, and the desk after it. -/
def perform (desk : Desk σ) : Call → Option (Except RecorderError Bool) × Desk σ
  | .hand recorder ns attr payload =>
    let (answer, desk) := (recorder.call ns attr payload).perform desk
    (some answer, desk)
  | .reset => (none, { desk with recorders := desk.recorders.reset })

def performAll (desk : Desk σ) : List Call → List (Option (Except RecorderError Bool)) × Desk σ
  | [] => ([], desk)
  | call :: calls =>
    let (answer, desk) := desk.perform call
    let (answers, desk) := desk.performAll calls
    (answer :: answers, desk)

end Desk
end BeanMetrics
