import BeanMetrics.Proofs.Recorder.Quantity

/-!
What recorders expose. The samples that a recorder makes of a payload are those of the quantities in
it, each once and in their order, and a payload that it declines has none. Only the identity of the
node is no quantity; it is exposed at most once until the next reset.
-/

namespace BeanMetrics

/-- The emissions are samples of the quantities, one of each and in their order. -/
def Exposed (ns : String) (qs : List Quantity) (emissions : List Emission) : Prop :=
  qs.map (·.series? ns) = emissions.map fun e => some e.sample.series

theorem Exposed.append {ns : String} {qs qs' : List Quantity} {emissions emissions' : List Emission}
    (h : Exposed ns qs emissions) (h' : Exposed ns qs' emissions') :
    Exposed ns (qs ++ qs') (emissions ++ emissions') := by
  unfold Exposed at h h' ⊢
  rw [List.map_append, List.map_append, h, h']

theorem Exposed.singleton {ns : String} {q : Quantity} {e : Emission}
    (h : q.series? ns = some e.sample.series) : Exposed ns [q] [e] := by
  simp [Exposed, h]

theorem Exposed.exists_quantity {ns : String} {qs : List Quantity} {emissions : List Emission}
    (h : Exposed ns qs emissions) {e : Emission} (he : e ∈ emissions) :
    ∃ q ∈ qs, q.series? ns = some e.sample.series := by
  have hm : some e.sample.series ∈ qs.map (·.series? ns) := h ▸ List.mem_map_of_mem he
  exact List.mem_map.mp hm

theorem Exposed.exists_emission {ns : String} {qs : List Quantity} {emissions : List Emission}
    (h : Exposed ns qs emissions) {q : Quantity} (hq : q ∈ qs) :
    ∃ e ∈ emissions, q.series? ns = some e.sample.series := by
  have hm : q.series? ns ∈ emissions.map fun e => some e.sample.series :=
    h ▸ List.mem_map_of_mem hq
  obtain ⟨e, he, hs⟩ := List.mem_map.mp hm
  exact ⟨e, he, hs.symm⟩

theorem Exposed.map_numbers {ns : String} {emission : String × Binary64 → Emission}
    {quantity : String × Binary64 → Quantity}
    (h : ∀ number, (quantity number).series? ns = some (emission number).sample.series)
    (numbers : List (String × Binary64)) :
    Exposed ns (numbers.map quantity) (numbers.map emission) := by
  simp [Exposed, h]

/-- Consumed with samples of the quantities, or declined when there are none. -/
def Verdict.Exposes (ns : String) (qs : List Quantity) : Verdict (List Emission) → Prop
  | consumed emissions => Exposed ns qs emissions
  | declined => qs = []
  | notImplemented => True

theorem series_gauge (help name : String) (value : Binary64) {labels : List (String × String)}
    (h : (labels.map (·.1)).Nodup) :
    (Emission.gauge help ((Sample.unlabeled name value).withLabels labels)).sample.series =
      ⟨name, labels⟩ :=
  Sample.series_unlabeled_withLabels name value h

/-! ### Recorders that keep nothing -/

theorem Pool.exposes_record {recorder : Recorder} {ns metric : String} (help : String)
    (record : CompositeRecord)
    (h : ∀ name field, (Quantity.pool recorder name field).series? ns =
      some (Quantity.poolSeries metric name field)) :
    (Pool.record metric help (.composite record)).Exposes ns (recorder.poolQuantities record) := by
  show (Verdict.ofOption (emissions? metric help record)).Exposes ns _
  unfold emissions? Recorder.poolQuantities
  cases name? record with
  | none => rfl
  | some name =>
    refine Exposed.map_numbers (fun ⟨field, number⟩ => ?_) record.numbers
    rw [h, series_gauge _ _ _ (by simp)]
    rfl

theorem Connections.exposes_record (ns attr : String) (payload : Payload) :
    (record ns attr payload).Exposes ns (Recorder.connections.quantities attr payload) := by
  cases payload with
  | number n =>
    unfold record Recorder.quantities Recorder.knows
    cases hd : decompose? attr with
    | none => rfl
    | some parts =>
      refine Exposed.singleton ?_
      rw [series_gauge _ _ _ (by simp), Quantity.series?, Recorder.attributeSeries?, hd]
      rfl
  | string s => rfl
  | _ => trivial

theorem QueryStats.exposes_record (ns attr : String) (payload : Payload) :
    (record ns attr payload).Exposes ns (Recorder.queryStats.quantities attr payload) := by
  cases payload with
  | number n =>
    unfold record Recorder.quantities Recorder.knows
    cases hd : decompose? attr with
    | none => rfl
    | some parts =>
      refine Exposed.singleton ?_
      rw [Quantity.series?, Recorder.attributeSeries?, hd]
      rfl
  | string s => rfl
  | _ => trivial

theorem NodeStatus.exposes_record (ns attr : String) (payload : Payload) :
    (record ns attr payload).Exposes ns (Recorder.nodeStatus.quantities attr payload) := by
  cases payload with
  | number n =>
    dsimp only [record, Recorder.quantities, Recorder.knows]
    by_cases ha : attr = readyAttribute
    · simp only [ha, decide_true, if_true]
      refine Exposed.singleton ?_
      rw [Quantity.series?, Recorder.attributeSeries?, if_pos rfl]
      rfl
    · simp [ha, Verdict.Exposes]
  | string s => rfl
  | _ => trivial

/-! ### The recorder of the node -/

def identitySeries (ns id name : String) : Series :=
  ⟨ns ++ "_node_info", [("id", id), ("name", name)]⟩

/-- Whether the identity has been emitted, before and after, and what is exposed of it between. -/
inductive Introduces (ns : String) : Bool → Bool → List Series → Prop where
  | nothing (emitted : Bool) : Introduces ns emitted emitted []
  | identity (id name : String) : Introduces ns false true [identitySeries ns id name]

theorem Introduces.append {ns : String} {a b c : Bool} {first second : List Series}
    (h : Introduces ns a b first) (h' : Introduces ns b c second) :
    Introduces ns a c (first ++ second) := by
  cases h with
  | nothing => exact h'
  | identity id name =>
    cases h' with
    | nothing => exact .identity id name

theorem Introduces.eq_identitySeries {ns : String} {before after : Bool} {series : List Series}
    (h : Introduces ns before after series) {a : Series} (ha : a ∈ series) :
    ∃ id name, a = identitySeries ns id name := by
  cases h with
  | nothing => cases ha
  | identity id name => exact ⟨id, name, List.mem_singleton.mp ha⟩

theorem Introduces.length_le {ns : String} {before after : Bool} {series : List Series}
    (h : Introduces ns before after series) : series.length ≤ 1 := by
  cases h <;> simp

/-- The series of the quantities, perhaps behind the identity of the node. -/
def Recorded.Exposes (ns : String) (r : Recorders) (qs : List Quantity) (recorded : Recorded) :
    Prop :=
  ∃ identity own, recorded.emissions = identity ++ own ∧
    Introduces ns r.node.emitted recorded.recorders.node.emitted (identity.map (·.sample.series)) ∧
    Exposed ns qs own

theorem NodeInfo.introduces_introduce (ns : String) (node : NodeIdentity) :
    Introduces ns node.emitted (introduce ns node).1.emitted
      ((introduce ns node).2.map (·.sample.series)) := by
  unfold introduce
  split
  · rename_i id name he hid hname
    rw [he]
    exact .identity id name
  · exact .nothing node.emitted

theorem NodeInfo.emitted_of_learn? {attr value : String} {node learnt : NodeIdentity}
    (h : learn? attr value node = some learnt) : learnt.emitted = node.emitted := by
  unfold learn? at h
  split at h
  · obtain rfl := Option.some.inj h
    rfl
  · split at h
    · obtain rfl := Option.some.inj h
      rfl
    · cases h

theorem NodeInfo.exposed_statisticsEmissions (ns : String) (record : CompositeRecord) :
    Exposed ns (record.numbers.map fun (field, _) => .shardStatistic field)
      (statisticsEmissions ns record) := by
  refine Exposed.map_numbers (fun ⟨field, number⟩ => ?_) record.numbers
  rw [series_gauge _ _ _ (by simp)]
  rfl

theorem NodeInfo.exposed_shardEmissions (ns : String) (shard : CompositeRecord) :
    Exposed ns (Recorder.shardQuantities shard) (shardEmissions ns shard) := by
  refine Exposed.map_numbers (fun ⟨field, number⟩ => ?_) (measured shard)
  rw [series_gauge _ _ _ (by simp [shardLabels]), ← ShardIdentity.labels_of]
  rfl

theorem NodeInfo.exposed_shards (ns : String) (shards : List CompositeRecord) :
    Exposed ns (shards.flatMap Recorder.shardQuantities) (shards.flatMap (shardEmissions ns)) := by
  induction shards with
  | nil => rfl
  | cons shard shards ih =>
    rw [List.flatMap_cons, List.flatMap_cons]
    exact (exposed_shardEmissions ns shard).append ih

/-- Consumed with the quantities and perhaps the identity of the node, or declined. -/
def Recorders.Exposes (ns : String) (r : Recorders) (qs : List Quantity) :
    Verdict Recorded → Prop
  | .consumed recorded => recorded.Exposes ns r qs
  | .declined => qs = []
  | .notImplemented => True

theorem Recorders.exposes_map {ns : String} {r : Recorders} {qs : List Quantity}
    {verdict : Verdict (List Emission)} (h : verdict.Exposes ns qs) :
    r.Exposes ns qs (verdict.map (⟨r, ·⟩)) := by
  cases verdict with
  | consumed emissions => exact ⟨[], emissions, rfl, .nothing _, h⟩
  | declined => exact h
  | notImplemented => trivial

theorem NodeInfo.exposes_handle (r : Recorders) (ns attr : String) (payload : Payload) :
    r.Exposes ns (Recorder.nodeInfo.quantities attr payload)
      (r.handle .nodeInfo ns attr payload) := by
  unfold Recorders.handle
  cases payload with
  | number n =>
    dsimp only [record, Recorder.quantities, Recorder.knows]
    by_cases ha : attr = "ClusterStateVersion"
    · simp only [ha, decide_true, if_true]
      refine ⟨[], _, rfl, .nothing _, Exposed.singleton ?_⟩
      rw [Quantity.series?, Recorder.attributeSeries?, if_pos rfl]
      rfl
    · simp [ha, Recorders.Exposes, Verdict.map]
  | string value =>
    dsimp only [record]
    cases hl : learn? attr value r.node with
    | none => rfl
    | some learnt =>
      have hi := introduces_introduce ns learnt
      rw [emitted_of_learn? hl] at hi
      exact ⟨_, [], (List.append_nil _).symm, hi, rfl⟩
  | composite fields =>
    dsimp only [record, Recorder.quantities, Recorder.recordQuantities]
    by_cases ha : attr = "ShardStats"
    · simp only [ha, if_true]
      exact ⟨[], _, rfl, .nothing _, exposed_statisticsEmissions ns fields⟩
    · simp [ha, Recorders.Exposes, Verdict.map]
  | compositeArray shards =>
    dsimp only [record, Recorder.quantities]
    by_cases ha : attr = "ShardInfo"
    · simp only [ha, and_self, if_true]
      exact ⟨[], _, rfl, .nothing _, exposed_shards ns shards⟩
    · simp [ha, Recorders.Exposes, Verdict.map]

/-! ### All recorders -/

theorem Recorders.exposes_handle (r : Recorders) (recorder : Recorder) (ns attr : String)
    (payload : Payload) :
    r.Exposes ns (recorder.quantities attr payload) (r.handle recorder ns attr payload) := by
  cases recorder with
  | circuitBreakers | threadPools =>
    refine exposes_map ?_
    cases payload with
    | composite record => exact Pool.exposes_record _ record fun name field => rfl
    | _ => trivial
  | connections => exact exposes_map (Connections.exposes_record ns attr payload)
  | nodeInfo => exact NodeInfo.exposes_handle r ns attr payload
  | nodeStatus => exact exposes_map (NodeStatus.exposes_record ns attr payload)
  | queryStats => exact exposes_map (QueryStats.exposes_record ns attr payload)

end BeanMetrics
