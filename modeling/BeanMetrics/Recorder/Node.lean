import BeanMetrics.Recorder.Basic

/-!
The node: whether it is ready, who it is, and what its shards are. Its id and its name are two
attributes that become the labels of one sample, which is emitted once both are known and not again
before the next reset.
-/

namespace BeanMetrics
namespace NodeStatus

def kind : String := "NodeStatus"

def readyAttribute : String := "Ready"

def record (ns attr : String) : Payload → Verdict (List Emission)
  | .number n =>
    if attr = readyAttribute then
      .consumed [.gauge "Whether the node is ready to process requests (1) or not (0)."
        (.unlabeled (ns ++ "_ready") n)]
    else .declined
  | .string _ => .declined
  | _ => .notImplemented

end NodeStatus

/-- What has been learnt of the node's identity since the last reset. -/
structure NodeIdentity where
  id : Option String
  name : Option String
  emitted : Bool
  deriving DecidableEq, Inhabited, Repr

def NodeIdentity.unknown : NodeIdentity := ⟨none, none, false⟩

/-- As a reset leaves it: both parts are forgotten, and the sample may be emitted again. -/
def NodeIdentity.forget (node : NodeIdentity) : NodeIdentity :=
  { node with id := none, name := none, emitted := false }

namespace NodeInfo

/-- Equal up to the case of ASCII letters. -/
def sameIgnoringCase (a b : String) : Bool :=
  a.toList.map Char.toLower == b.toList.map Char.toLower

/-- The identity after an attribute has been read, if it is one of the two that make it. -/
def learn? (attr value : String) (node : NodeIdentity) : Option NodeIdentity :=
  if sameIgnoringCase attr "NodeId" then some { node with id := some value }
  else if sameIgnoringCase attr "NodeName" then some { node with name := some value }
  else none

/-- The identity sample, when both parts are known and it has not been emitted before. -/
def introduce (ns : String) (node : NodeIdentity) : NodeIdentity × List Emission :=
  match node.emitted, node.id, node.name with
  | false, some id, some name =>
    ({ node with emitted := true },
      [⟨(Sample.unlabeled (ns ++ "_node_info") .one).withLabels [("id", id), ("name", name)],
        .untyped, "Node information."⟩])
  | _, _, _ => (node, [])

def shardHelp : String := "Shard statistics and per-shard information of the node."

/-- The fields of a shard that become labels, with the names of the labels. -/
def shardLabels : List (String × String) :=
  [("shardId", "id"), ("schema", "schema"), ("table", "table"),
   ("partitionIdent", "partition_ident"), ("primary", "primary")]

/-- The text of a field as a label; empty if it has none. -/
def fieldLabel (record : CompositeRecord) (field : String) : String :=
  ((KeyMap.get? field record).bind AttributeValue.labelText?).getD ""

/-- One sample for each number of the statistics. -/
def statisticsEmissions (ns : String) (record : CompositeRecord) : List Emission :=
  CompositeRecord.numbers record |>.map fun (field, number) =>
    .gauge shardHelp ((Sample.unlabeled (ns ++ "_node") number).withLabels
      [("name", "shard_stats"), ("property", field)])

def measured (shard : CompositeRecord) : List (String × Binary64) :=
  CompositeRecord.numbers (shard.filter fun (field, _) => !shardLabels.any (·.1 = field))

/-- One sample for each number of a shard that is no label of it. -/
def shardEmissions (ns : String) (shard : CompositeRecord) : List Emission :=
  let labels := shardLabels.map fun (field, label) => (label, fieldLabel shard field)
  measured shard |>.map fun (field, number) =>
    .gauge shardHelp ((Sample.unlabeled (ns ++ "_node") number).withLabels
      (("name", "shard_info") :: ("property", field) :: labels))

def record (node : NodeIdentity) (ns attr : String) :
    Payload → Verdict (NodeIdentity × List Emission)
  | .number n =>
    if attr = "ClusterStateVersion" then
      .consumed (node, [.gauge "The current version of the cluster state."
        (.unlabeled (ns ++ "_cluster_state_version") n)])
    else .declined
  | .string value => .ofOption ((learn? attr value node).map (introduce ns))
  | .composite record =>
    if attr = "ShardStats" then .consumed (node, statisticsEmissions ns record) else .declined
  | .compositeArray shards =>
    if attr = "ShardInfo" then .consumed (node, shards.flatMap (shardEmissions ns)) else .declined

end NodeInfo
end BeanMetrics
