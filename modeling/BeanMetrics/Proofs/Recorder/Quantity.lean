import BeanMetrics.Proofs.Metric.Series
import BeanMetrics.Proofs.Recorder.Traffic
import BeanMetrics.Recorder.Kinds

/-!
What samples measure. A quantity is told by what was read: the attribute that its recorder knows,
the pool or the shard and the field of its record, or the name that is made for a number without
recorder. Its series is what the samples of it are exposed under. Two quantities get the same series
only if they are the same one, or if both have no labels and come to the same name.
-/

namespace BeanMetrics

/-- The texts that tell the shards of a node from each other. -/
structure ShardIdentity where
  id : String
  schema : String
  table : String
  partition : String
  primary : String
  deriving DecidableEq, Repr

namespace ShardIdentity

def of (shard : CompositeRecord) : ShardIdentity where
  id := NodeInfo.fieldLabel shard "shardId"
  schema := NodeInfo.fieldLabel shard "schema"
  table := NodeInfo.fieldLabel shard "table"
  partition := NodeInfo.fieldLabel shard "partitionIdent"
  primary := NodeInfo.fieldLabel shard "primary"

def labels (shard : ShardIdentity) : List (String × String) :=
  [("id", shard.id), ("schema", shard.schema), ("table", shard.table),
   ("partition_ident", shard.partition), ("primary", shard.primary)]

theorem labels_of (shard : CompositeRecord) :
    (of shard).labels =
      NodeInfo.shardLabels.map fun (field, label) => (label, NodeInfo.fieldLabel shard field) := rfl

end ShardIdentity

inductive Quantity where
  /-- A number without recorder, under the name that is made for it. -/
  | unrecorded (name : String)
  /-- A number that is known by the name of its attribute. -/
  | known (recorder : Recorder) (attr : String)
  | pool (recorder : Recorder) (name field : String)
  | shardStatistic (field : String)
  | shard (identity : ShardIdentity) (field : String)
  deriving DecidableEq, Repr

namespace Recorder

/-- Whether a number is measured under the name of its attribute. -/
def knows (attr : String) : Recorder → Bool
  | .nodeStatus => attr = NodeStatus.readyAttribute
  | .nodeInfo => attr = "ClusterStateVersion"
  | .connections => (Connections.decompose? attr).isSome
  | .queryStats => (QueryStats.decompose? attr).isSome
  | .circuitBreakers | .threadPools => false

/-- The quantities in the record of a pool: none if it has no name. -/
def poolQuantities (recorder : Recorder) (record : CompositeRecord) : List Quantity :=
  match Pool.name? record with
  | some name => record.numbers.map fun (field, _) => .pool recorder name field
  | none => []

def recordQuantities (attr : String) (record : CompositeRecord) : Recorder → List Quantity
  | .nodeInfo =>
    if attr = "ShardStats" then record.numbers.map fun (field, _) => .shardStatistic field else []
  | .circuitBreakers => poolQuantities .circuitBreakers record
  | .threadPools => poolQuantities .threadPools record
  | _ => []

def shardQuantities (shard : CompositeRecord) : List Quantity :=
  (NodeInfo.measured shard).map fun (field, _) => .shard (.of shard) field

/-- What a recorder measures when it is handed a payload. -/
def quantities (recorder : Recorder) (attr : String) : Payload → List Quantity
  | .number _ => if recorder.knows attr then [.known recorder attr] else []
  | .string _ => []
  | .composite record => recorder.recordQuantities attr record
  | .compositeArray shards =>
    if recorder = .nodeInfo ∧ attr = "ShardInfo" then shards.flatMap shardQuantities else []

def attributeSeries? (ns attr : String) : Recorder → Option Series
  | .nodeStatus => if attr = NodeStatus.readyAttribute then some ⟨ns ++ "_ready", []⟩ else none
  | .nodeInfo =>
    if attr = "ClusterStateVersion" then some ⟨ns ++ "_cluster_state_version", []⟩ else none
  | .connections => (Connections.decompose? attr).map fun (protocol, property) =>
    ⟨ns ++ "_connections", [("protocol", Connections.lowerAscii protocol),
      ("property", Connections.lowerAscii property)]⟩
  | .queryStats => (QueryStats.decompose? attr).map fun (statement, figure) =>
    ⟨ns ++ "_" ++ figure.metric, [("query", statement)]⟩
  | .circuitBreakers | .threadPools => none

end Recorder

namespace Quantity

def poolSeries (metric name field : String) : Series :=
  ⟨metric, [("name", name), ("property", field)]⟩

/-- The series of a quantity, if there is one: not every recorder has pools, and none knows every
attribute. -/
def series? (ns : String) : Quantity → Option Series
  | .unrecorded name => some ⟨name, []⟩
  | .known recorder attr => recorder.attributeSeries? ns attr
  | .pool .circuitBreakers name field => some (poolSeries (ns ++ "_circuitbreakers") name field)
  | .pool .threadPools name field => some (poolSeries (ns ++ "_threadpools") name field)
  | .pool _ _ _ => none
  | .shardStatistic field => some ⟨ns ++ "_node", [("name", "shard_stats"), ("property", field)]⟩
  | .shard identity field =>
    some ⟨ns ++ "_node", ("name", "shard_info") :: ("property", field) :: identity.labels⟩

def unlabeled? (ns : String) : Quantity → Option String
  | .unrecorded name => some name
  | .known .nodeStatus _ => some (ns ++ "_ready")
  | .known .nodeInfo _ => some (ns ++ "_cluster_state_version")
  | _ => none

/-- Two quantities that are exposed as one: the same, or both without labels and of one name. -/
def Coincide (ns : String) (q q' : Quantity) : Prop :=
  q = q' ∨ ∃ name, q.unlabeled? ns = some name ∧ q'.unlabeled? ns = some name

/-! ### The series of different quantities -/

def labelNameLists : List (List String) :=
  [[], ["protocol", "property"], ["query"], ["name", "property"],
   ["name", "property", "id", "schema", "table", "partition_ident", "primary"]]

theorem labelNames_of_attributeSeries? {ns attr : String} {recorder : Recorder} {a : Series}
    (h : recorder.attributeSeries? ns attr = some a) : a.labelNames ∈ labelNameLists := by
  cases recorder with
  | nodeStatus | nodeInfo =>
    rw [Recorder.attributeSeries?] at h
    split at h
    · obtain rfl := Option.some.inj h
      simp [Series.labelNames, labelNameLists]
    · cases h
  | connections | queryStats =>
    obtain ⟨parts, -, rfl⟩ := Option.map_eq_some_iff.mp h
    simp [Series.labelNames, labelNameLists]
  | circuitBreakers | threadPools => cases h

theorem labelNames_of_series? {ns : String} {q : Quantity} {a : Series}
    (h : q.series? ns = some a) : a.labelNames ∈ labelNameLists := by
  cases q with
  | unrecorded name | shardStatistic field | shard identity field =>
    obtain rfl := Option.some.inj h
    simp [Series.labelNames, labelNameLists, ShardIdentity.labels]
  | known recorder attr => exact labelNames_of_attributeSeries? h
  | pool recorder name field =>
    cases recorder with
    | circuitBreakers | threadPools =>
      obtain rfl := Option.some.inj h
      simp [Series.labelNames, labelNameLists, poolSeries]
    | _ => cases h

theorem nodup_of_mem_labelNameLists : ∀ names ∈ labelNameLists, names.Nodup := by decide

theorem eq_of_subset_labelNameLists :
    ∀ names ∈ labelNameLists, ∀ names' ∈ labelNameLists,
      (∀ n ∈ names, n ∈ names') → (∀ n ∈ names', n ∈ names) → names = names' := by decide

/-- Samples have their labels in a fixed order, so the same set of labels is the same list. -/
theorem eq_of_same {a b : Series} (ha : a.labelNames ∈ labelNameLists)
    (hb : b.labelNames ∈ labelNameLists) (h : a.Same b) : a = b := by
  obtain ⟨hname, hl⟩ := h
  have hn : a.labelNames = b.labelNames :=
    eq_of_subset_labelNameLists _ ha _ hb (Series.labelNames_subset fun label => (hl label).mp)
      (Series.labelNames_subset fun label => (hl label).mpr)
  have he : a.labels = b.labels :=
    labels_eq_of_mem_iff hn (nodup_of_mem_labelNameLists _ ha) hl
  cases a
  cases b
  simp_all

inductive Labeled (ns : String) : Quantity → Series → Prop where
  | connections {attr protocol property : String}
      (h : Connections.decompose? attr = some (protocol, property)) :
      Labeled ns (.known .connections attr) ⟨ns ++ "_connections",
        [("protocol", Connections.lowerAscii protocol),
          ("property", Connections.lowerAscii property)]⟩
  | queries {attr statement : String} {figure : QueryStats.Figure}
      (h : QueryStats.decompose? attr = some (statement, figure)) :
      Labeled ns (.known .queryStats attr) ⟨ns ++ "_" ++ figure.metric, [("query", statement)]⟩
  | breakers (name field : String) :
      Labeled ns (.pool .circuitBreakers name field)
        (poolSeries (ns ++ "_circuitbreakers") name field)
  | threads (name field : String) :
      Labeled ns (.pool .threadPools name field) (poolSeries (ns ++ "_threadpools") name field)
  | shardStatistic (field : String) :
      Labeled ns (.shardStatistic field)
        ⟨ns ++ "_node", [("name", "shard_stats"), ("property", field)]⟩
  | shard (identity : ShardIdentity) (field : String) :
      Labeled ns (.shard identity field)
        ⟨ns ++ "_node", ("name", "shard_info") :: ("property", field) :: identity.labels⟩

theorem Labeled.labels_ne_nil {ns : String} {q : Quantity} {a : Series} (h : Labeled ns q a) :
    a.labels ≠ [] := by
  cases h <;> simp [poolSeries]

/-- A series has labels or is settled by its name. -/
theorem labeled_or_unlabeled {ns : String} {q : Quantity} {a : Series}
    (h : q.series? ns = some a) :
    Labeled ns q a ∨ ∃ name, q.unlabeled? ns = some name ∧ a = ⟨name, []⟩ := by
  cases q with
  | unrecorded name =>
    obtain rfl := Option.some.inj h
    exact .inr ⟨name, rfl, rfl⟩
  | known recorder attr =>
    rw [series?] at h
    cases recorder with
    | nodeStatus | nodeInfo =>
      rw [Recorder.attributeSeries?] at h
      split at h
      · obtain rfl := Option.some.inj h
        exact .inr ⟨_, rfl, rfl⟩
      · cases h
    | connections =>
      obtain ⟨⟨protocol, property⟩, hd, rfl⟩ := Option.map_eq_some_iff.mp h
      exact .inl (.connections hd)
    | queryStats =>
      obtain ⟨⟨statement, figure⟩, hd, rfl⟩ := Option.map_eq_some_iff.mp h
      exact .inl (.queries hd)
    | circuitBreakers | threadPools => cases h
  | pool recorder name field =>
    cases recorder with
    | circuitBreakers =>
      obtain rfl := Option.some.inj h
      exact .inl (.breakers name field)
    | threadPools =>
      obtain rfl := Option.some.inj h
      exact .inl (.threads name field)
    | _ => cases h
  | shardStatistic field =>
    obtain rfl := Option.some.inj h
    exact .inl (.shardStatistic field)
  | shard identity field =>
    obtain rfl := Option.some.inj h
    exact .inl (.shard identity field)

theorem Labeled.unlabeled?_eq_none {ns : String} {q : Quantity} {a : Series}
    (h : Labeled ns q a) : q.unlabeled? ns = none := by
  cases h <;> rfl

theorem eq_of_unlabeled? {ns name : String} {q : Quantity} {a : Series}
    (h : q.series? ns = some a) (hn : q.unlabeled? ns = some name) : a = ⟨name, []⟩ := by
  rcases labeled_or_unlabeled h with hl | ⟨name', hn', ha⟩
  · simp [hl.unlabeled?_eq_none] at hn
  · obtain rfl := Option.some.inj (hn.symm.trans hn')
    exact ha

/-- Under labels a series is of one quantity only. -/
theorem Labeled.unique {ns : String} {q q' : Quantity} {a b : Series} (h : Labeled ns q a)
    (h' : Labeled ns q' b) (he : a = b) : q = q' := by
  cases h with
  | connections hd =>
    cases h' with
    | connections hd' =>
      simp only [Series.mk.injEq, List.cons.injEq, Prod.mk.injEq, true_and, and_true] at he
      rw [Connections.eq_of_lowerAscii_eq hd hd' he.1 he.2]
    | _ => simp [poolSeries] at he
  | queries hd =>
    cases h' with
    | queries hd' =>
      simp only [Series.mk.injEq, List.cons.injEq, Prod.mk.injEq, true_and, and_true,
        String.append_right_inj] at he
      obtain ⟨hm, rfl⟩ := he
      rw [QueryStats.eq_of_metric_eq hd hd' hm]
    | _ => simp [poolSeries] at he
  | breakers name field =>
    cases h' with
    | breakers name' field' => simpa [poolSeries] using he
    | _ => simp [poolSeries] at he
  | threads name field =>
    cases h' with
    | threads name' field' => simpa [poolSeries] using he
    | _ => simp [poolSeries] at he
  | shardStatistic field =>
    cases h' with
    | shardStatistic field' => simpa using he
    | _ => simp [poolSeries] at he
  | shard identity field =>
    cases h' with
    | shard identity' field' =>
      cases identity
      cases identity'
      simp_all [ShardIdentity.labels]
    | _ => simp [poolSeries] at he

theorem same_iff_coincide {ns : String} {q q' : Quantity} {a b : Series}
    (h : q.series? ns = some a) (h' : q'.series? ns = some b) :
    a.Same b ↔ Coincide ns q q' := by
  constructor
  · intro hs
    obtain rfl := eq_of_same (labelNames_of_series? h) (labelNames_of_series? h') hs
    rcases labeled_or_unlabeled h with hl | ⟨name, hn, ha⟩
    · rcases labeled_or_unlabeled h' with hl' | ⟨name', -, ha'⟩
      · exact .inl (hl.unique hl' rfl)
      · exact absurd (congrArg Series.labels ha') hl.labels_ne_nil
    · rcases labeled_or_unlabeled h' with hl' | ⟨name', hn', ha'⟩
      · exact absurd (congrArg Series.labels ha) hl'.labels_ne_nil
      · have he : name = name' := congrArg Series.name (ha.symm.trans ha')
        exact .inr ⟨name, hn, he ▸ hn'⟩
  · rintro (rfl | ⟨name, hn, hn'⟩)
    · obtain rfl := Option.some.inj (h.symm.trans h')
      exact ⟨rfl, fun label => .rfl⟩
    · obtain rfl := eq_of_unlabeled? h hn
      obtain rfl := eq_of_unlabeled? h' hn'
      exact ⟨rfl, fun label => .rfl⟩

end Quantity
end BeanMetrics
