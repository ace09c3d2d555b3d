import BeanMetrics.Proofs.Recorder.Verdict

/-!
The metrics of the recorders. Whatever a recorder is handed and whatever it has learnt, it emits
samples of its own metrics only, and it can emit a sample of each of them.
-/

namespace BeanMetrics

/-- A metric whose name is the namespace with a fixed ending. -/
structure RecorderMetric where
  suffix : String
  type : MetricType
  help : String
  deriving DecidableEq, Repr

def RecorderMetric.name (m : RecorderMetric) (ns : String) : String := ns ++ "_" ++ m.suffix

theorem RecorderMetric.append_eq_name {m : RecorderMetric} {ending : String}
    (h : ending = "_" ++ m.suffix) (ns : String) : ns ++ ending = m.name ns := by
  rw [h, name, String.append_assoc]

structure Emission.IsOf (ns : String) (m : RecorderMetric) (e : Emission) : Prop where
  name : e.sample.name = m.name ns
  type : e.type = m.type
  help : e.help = m.help

def Recorder.metrics : Recorder → List RecorderMetric
  | .circuitBreakers => [⟨"circuitbreakers", .gauge, "Statistics of circuit breakers"⟩]
  | .connections =>
    [⟨"connections", .gauge, "Number of connections and transferred messages and bytes per protocol"⟩]
  | .nodeInfo =>
    [⟨"cluster_state_version", .gauge, "The current version of the cluster state."⟩,
     ⟨"node", .gauge, NodeInfo.shardHelp⟩, ⟨"node_info", .untyped, "Node information."⟩]
  | .nodeStatus =>
    [⟨"ready", .gauge, "Whether the node is ready to process requests (1) or not (0)."⟩]
  | .queryStats => QueryStats.figures.map fun figure => ⟨figure.metric, .gauge, figure.help⟩
  | .threadPools => [⟨"threadpools", .gauge, "Statistics of thread pools"⟩]

/-- Whether a recorder, in some state and handed some value, emits this. -/
def Recorder.Emits (recorder : Recorder) (ns : String) (e : Emission) : Prop :=
  ∃ (r : Recorders) (attr : String) (value : AttributeValue) (recorded : Recorded),
    r.record recorder ns attr value = .ok (some recorded) ∧ e ∈ recorded.emissions

@[simp] theorem Sample.name_withLabels (s : Sample) (labels : List (String × String)) :
    (s.withLabels labels).name = s.name := by
  induction labels generalizing s with
  | nil => rfl
  | cons label labels ih => exact ih (s.withLabel label.1 label.2)

namespace Verdict

variable {α β : Type}

/-- The result has a property, if there is one. -/
def All (p : α → Prop) : Verdict α → Prop
  | consumed result => p result
  | declined => True
  | notImplemented => True

theorem all_map {p : β → Prop} {f : α → β} {verdict : Verdict α} :
    (verdict.map f).All p ↔ verdict.All fun result => p (f result) := by
  cases verdict <;> rfl

theorem all_ofOption {p : α → Prop} {result : Option α} :
    (ofOption result).All p ↔ ∀ a ∈ result, p a := by
  cases result <;> simp [ofOption, All]

end Verdict

def AllOf (ns : String) (metrics : List RecorderMetric) (emissions : List Emission) : Prop :=
  ∀ e ∈ emissions, ∃ m ∈ metrics, e.IsOf ns m

theorem AllOf.gauges {ns : String} {metrics : List RecorderMetric} {m : RecorderMetric}
    {emissions : List Emission} (hm : m ∈ metrics) (ht : m.type = .gauge)
    (h : ∀ e ∈ emissions, ∃ sample, e = .gauge m.help sample ∧ sample.name = m.name ns) :
    AllOf ns metrics emissions := by
  intro e he
  obtain ⟨sample, rfl, hn⟩ := h e he
  exact ⟨m, hm, hn, ht.symm, rfl⟩

/-! ### What the recorders emit -/

theorem Pool.mem_emissions? {metric help : String} {record : CompositeRecord}
    {emissions : List Emission} (h : emissions? metric help record = some emissions) :
    ∀ e ∈ emissions, ∃ sample, e = .gauge help sample ∧ sample.name = metric := by
  obtain ⟨pool, -, rfl⟩ := Option.map_eq_some_iff.mp h
  intro e he
  obtain ⟨number, -, rfl⟩ := List.mem_map.mp he
  exact ⟨_, rfl, Sample.name_withLabels _ _⟩

theorem Pool.allOf_record {ns metric : String} {metrics : List RecorderMetric} {m : RecorderMetric}
    (hm : m ∈ metrics) (ht : m.type = .gauge) (hn : metric = m.name ns) (payload : Payload) :
    (Pool.record metric m.help payload).All (AllOf ns metrics) := by
  cases payload with
  | composite fields =>
    refine Verdict.all_ofOption.mpr fun emissions he => ?_
    exact .gauges hm ht (hn ▸ mem_emissions? he)
  | _ => trivial

theorem Connections.allOf_record (ns attr : String) (payload : Payload) :
    (record ns attr payload).All (AllOf ns Recorder.connections.metrics) := by
  cases payload with
  | number n =>
    refine Verdict.all_ofOption.mpr fun emissions he => ?_
    obtain ⟨parts, -, rfl⟩ := Option.map_eq_some_iff.mp he
    refine .gauges List.mem_cons_self rfl fun e he => ?_
    obtain rfl := List.mem_singleton.mp he
    exact ⟨_, rfl, (Sample.name_withLabels _ _).trans (RecorderMetric.append_eq_name (by decide) ns)⟩
  | _ => trivial

theorem QueryStats.allOf_record (ns attr : String) (payload : Payload) :
    (record ns attr payload).All (AllOf ns Recorder.queryStats.metrics) := by
  cases payload with
  | number n =>
    refine Verdict.all_ofOption.mpr fun emissions he => ?_
    obtain ⟨⟨statement, figure⟩, hd, rfl⟩ := Option.map_eq_some_iff.mp he
    have hm : figure ∈ figures := by
      obtain ⟨f, hf, hs⟩ := List.exists_of_findSome?_eq_some hd
      obtain ⟨_, -, he⟩ := Option.map_eq_some_iff.mp hs
      rwa [← (Prod.mk.inj he).2]
    refine .gauges (List.mem_map_of_mem hm) rfl fun e he => ?_
    obtain rfl := List.mem_singleton.mp he
    exact ⟨_, rfl, rfl⟩
  | _ => trivial

theorem NodeStatus.allOf_record (ns attr : String) (payload : Payload) :
    (record ns attr payload).All (AllOf ns Recorder.nodeStatus.metrics) := by
  cases payload with
  | number n =>
    rw [record]
    split
    · refine .gauges List.mem_cons_self rfl fun e he => ?_
      obtain rfl := List.mem_singleton.mp he
      exact ⟨_, rfl, (RecorderMetric.append_eq_name (by decide) ns)⟩
    · trivial
  | _ => trivial

namespace NodeInfo

theorem allOf_introduce (ns : String) (node : NodeIdentity) :
    AllOf ns Recorder.nodeInfo.metrics (introduce ns node).2 := by
  unfold introduce
  split
  · intro e he
    obtain rfl := List.mem_singleton.mp he
    refine ⟨⟨"node_info", .untyped, "Node information."⟩, by decide, ?_, rfl, rfl⟩
    exact (Sample.name_withLabels _ _).trans (RecorderMetric.append_eq_name (by decide) ns)
  · simp [AllOf]

def shardMetric : RecorderMetric := ⟨"node", .gauge, shardHelp⟩

theorem allOf_shardEmissions (ns : String) (shards : List CompositeRecord) :
    AllOf ns Recorder.nodeInfo.metrics (shards.flatMap (shardEmissions ns)) := by
  refine .gauges (m := shardMetric) (by decide) rfl fun e he => ?_
  obtain ⟨shard, -, hs⟩ := List.mem_flatMap.mp he
  obtain ⟨number, -, rfl⟩ := List.mem_map.mp hs
  exact ⟨_, rfl, (Sample.name_withLabels _ _).trans (RecorderMetric.append_eq_name (by decide) ns)⟩

theorem allOf_statisticsEmissions (ns : String) (record : CompositeRecord) :
    AllOf ns Recorder.nodeInfo.metrics (statisticsEmissions ns record) := by
  refine .gauges (m := shardMetric) (by decide) rfl fun e he => ?_
  obtain ⟨number, -, rfl⟩ := List.mem_map.mp he
  exact ⟨_, rfl, (Sample.name_withLabels _ _).trans (RecorderMetric.append_eq_name (by decide) ns)⟩

theorem allOf_record (node : NodeIdentity) (ns attr : String) (payload : Payload) :
    (record node ns attr payload).All fun made => AllOf ns Recorder.nodeInfo.metrics made.2 := by
  cases payload with
  | number n =>
    rw [record]
    split
    · refine .gauges (m := ⟨"cluster_state_version", .gauge, _⟩) List.mem_cons_self rfl fun e he => ?_
      obtain rfl := List.mem_singleton.mp he
      exact ⟨_, rfl, (RecorderMetric.append_eq_name (by decide) ns)⟩
    · trivial
  | string value =>
    refine Verdict.all_ofOption.mpr fun made hm => ?_
    obtain ⟨learnt, -, rfl⟩ := Option.map_eq_some_iff.mp hm
    exact allOf_introduce ns learnt
  | composite fields =>
    rw [record]
    split
    · exact allOf_statisticsEmissions ns fields
    · trivial
  | compositeArray shards =>
    rw [record]
    split
    · exact allOf_shardEmissions ns shards
    · trivial

end NodeInfo

theorem Recorders.allOf_handle (r : Recorders) (recorder : Recorder) (ns attr : String)
    (payload : Payload) :
    (r.handle recorder ns attr payload).All fun recorded =>
      AllOf ns recorder.metrics recorded.emissions := by
  cases recorder with
  | circuitBreakers =>
    exact Verdict.all_map.mpr (Pool.allOf_record List.mem_cons_self rfl
      (RecorderMetric.append_eq_name (by decide) ns) payload)
  | threadPools =>
    exact Verdict.all_map.mpr (Pool.allOf_record List.mem_cons_self rfl
      (RecorderMetric.append_eq_name (by decide) ns) payload)
  | connections => exact Verdict.all_map.mpr (Connections.allOf_record ns attr payload)
  | nodeInfo => exact Verdict.all_map.mpr (NodeInfo.allOf_record r.node ns attr payload)
  | nodeStatus => exact Verdict.all_map.mpr (NodeStatus.allOf_record ns attr payload)
  | queryStats => exact Verdict.all_map.mpr (QueryStats.allOf_record ns attr payload)

theorem Recorders.allOf_record {r : Recorders} {recorder : Recorder} {ns attr : String}
    {value : AttributeValue} {recorded : Recorded}
    (h : r.record recorder ns attr value = .ok (some recorded)) :
    AllOf ns recorder.metrics recorded.emissions := by
  unfold record at h
  split at h
  · cases h
  · rename_i payload hp
    have hall := r.allOf_handle recorder ns attr payload
    split at h
    · rename_i recorded' hh
      rw [hh] at hall
      obtain rfl := Option.some.inj (Except.ok.inj h)
      exact hall
    · cases h
    · cases h

namespace Recorder

theorem Emits.exists_metric {recorder : Recorder} {ns : String} {e : Emission}
    (h : recorder.Emits ns e) : ∃ m ∈ recorder.metrics, e.IsOf ns m := by
  obtain ⟨r, attr, value, recorded, hr, he⟩ := h
  exact Recorders.allOf_record hr e he

/-! ### That they can emit each of their metrics -/

theorem emits_pool {recorder : Recorder} (h : recorder = .circuitBreakers ∨ recorder = .threadPools)
    {m : RecorderMetric} (hm : m ∈ recorder.metrics) (ns : String) :
    ∃ e, recorder.Emits ns e ∧ e.IsOf ns m := by
  rcases h with rfl | rfl
  all_goals
    obtain rfl := List.mem_singleton.mp hm
    refine ⟨_, ⟨.initial, "", .composite [("count", .number .one), ("name", .string "a")], _, rfl,
      List.mem_cons_self⟩, ?_, rfl, rfl⟩
    exact RecorderMetric.append_eq_name (by decide) ns

theorem emits_connections {m : RecorderMetric} (hm : m ∈ connections.metrics) (ns : String) :
    ∃ e, connections.Emits ns e ∧ e.IsOf ns m := by
  obtain rfl := List.mem_singleton.mp hm
  refine ⟨_, ⟨.initial, "HttpOpen", .number .one, _, rfl, List.mem_cons_self⟩, ?_, rfl, rfl⟩
  exact RecorderMetric.append_eq_name (by decide) ns

theorem emits_nodeStatus {m : RecorderMetric} (hm : m ∈ nodeStatus.metrics) (ns : String) :
    ∃ e, nodeStatus.Emits ns e ∧ e.IsOf ns m := by
  obtain rfl := List.mem_singleton.mp hm
  refine ⟨_, ⟨.initial, NodeStatus.readyAttribute, .number .one, _, rfl, List.mem_cons_self⟩, ?_,
    rfl, rfl⟩
  exact RecorderMetric.append_eq_name (by decide) ns

theorem emits_nodeInfo {m : RecorderMetric} (hm : m ∈ nodeInfo.metrics) (ns : String) :
    ∃ e, nodeInfo.Emits ns e ∧ e.IsOf ns m := by
  simp only [metrics, List.mem_cons, List.not_mem_nil, or_false] at hm
  obtain rfl | rfl | rfl := hm
  · refine ⟨_, ⟨.initial, "ClusterStateVersion", .number .one, _, rfl, List.mem_cons_self⟩, ?_,
      rfl, rfl⟩
    exact RecorderMetric.append_eq_name (by decide) ns
  · refine ⟨_, ⟨.initial, "ShardStats", .composite [("total", .number .one)], _, rfl,
      List.mem_cons_self⟩, ?_, rfl, rfl⟩
    exact RecorderMetric.append_eq_name (by decide) ns
  · refine ⟨_, ⟨⟨⟨some "n1", none, false⟩⟩, "NodeName", .string "Aconcagua", _, rfl,
      List.mem_cons_self⟩, ?_, rfl, rfl⟩
    exact RecorderMetric.append_eq_name (by decide) ns

theorem emits_queryStats {m : RecorderMetric} (hm : m ∈ queryStats.metrics) (ns : String) :
    ∃ e, queryStats.Emits ns e ∧ e.IsOf ns m := by
  obtain ⟨figure, hf, rfl⟩ := List.mem_map.mp hm
  have hd : ∀ f ∈ QueryStats.figures,
      QueryStats.decompose? ("SelectQuery" ++ f.suffix) = some ("Select", f) := by decide
  have hr : Recorders.initial.record queryStats ns ("SelectQuery" ++ figure.suffix) (.number .one) =
      .ok (some ⟨.initial, [.gauge figure.help
        ((Sample.unlabeled (ns ++ "_" ++ figure.metric) .one).withLabel "query" "Select")]⟩) := by
    simp only [Recorders.record, AttributeValue.payload?, Recorders.handle, QueryStats.record,
      hd figure hf]
    rfl
  exact ⟨_, ⟨_, _, _, _, hr, List.mem_cons_self⟩, rfl, rfl, rfl⟩

theorem exists_emits {recorder : Recorder} {m : RecorderMetric} (hm : m ∈ recorder.metrics)
    (ns : String) : ∃ e, recorder.Emits ns e ∧ e.IsOf ns m := by
  cases recorder with
  | circuitBreakers => exact emits_pool (.inl rfl) hm ns
  | connections => exact emits_connections hm ns
  | nodeInfo => exact emits_nodeInfo hm ns
  | nodeStatus => exact emits_nodeStatus hm ns
  | queryStats => exact emits_queryStats hm ns
  | threadPools => exact emits_pool (.inr rfl) hm ns

def IsName (ns name : String) : Prop :=
  ∃ (recorder : Recorder) (e : Emission), recorder.Emits ns e ∧ e.sample.name = name

theorem isName_iff {ns name : String} :
    IsName ns name ↔ ∃ recorder, ∃ m ∈ metrics recorder, name = m.name ns := by
  constructor
  · rintro ⟨recorder, e, he, rfl⟩
    obtain ⟨m, hm, ho⟩ := he.exists_metric
    exact ⟨recorder, m, hm, ho.name⟩
  · rintro ⟨recorder, m, hm, rfl⟩
    obtain ⟨e, he, ho⟩ := exists_emits hm ns
    exact ⟨recorder, e, he, ho.name⟩

theorem suffix_ne_empty {recorder : Recorder} : ∀ m ∈ metrics recorder, m.suffix ≠ "" := by
  cases recorder <;> decide

end Recorder
end BeanMetrics
