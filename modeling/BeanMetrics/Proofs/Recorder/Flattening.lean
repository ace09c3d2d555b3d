import BeanMetrics.Proofs.Json.Ordered
import BeanMetrics.Proofs.Recorder.Handlers
import BeanMetrics.Proofs.Recorder.Metrics
import BeanMetrics.Proofs.Recorder.Quantity
import Mathlib.Data.List.Nodup

/-!
What becomes of records. Each number of a record becomes one gauge with its value, in the order of the
fields, under labels that tell the record and the field; other fields become labels or nothing. Two
samples of one value have the same labels only if they are of one field of two shards that are told
apart by none of their labels.
-/

namespace BeanMetrics

def SameLabels (e e' : Emission) : Prop :=
  ∀ label, label ∈ e.sample.labels ↔ label ∈ e'.sample.labels

/-- What comes of fields: a gauge for each number among them, in their order, with its value and the
labels that go with its name. No two of them have the same labels. -/
structure Flat (metric help : String) (labels : String → List (String × String))
    (fields : CompositeRecord) (emissions : List Emission) : Prop where
  each : List.Forall₂
    (fun field e => ∃ n, field.2 = .number n ∧ e = ⟨⟨metric, labels field.1, n⟩, .gauge, help⟩)
    (fields.filter fun field => field.2.kind = .number) emissions
  apart : emissions.Pairwise fun e e' => ¬ SameLabels e e'

/-- The labels that go with the name of a field: their names differ, and one of them is the property,
whose value is the name of the field. -/
structure TellsProperty (labels : String → List (String × String)) : Prop where
  nodup : ∀ property, ((labels property).map (·.1)).Nodup
  mem : ∀ property, ("property", property) ∈ labels property

variable {metric help : String} {labels : String → List (String × String)}

theorem TellsProperty.eq_of_mem (h : TellsProperty labels) {property value : String}
    (hm : ("property", value) ∈ labels property) : value = property :=
  congrArg Prod.snd (List.inj_on_of_nodup_map (h.nodup property) hm (h.mem property) rfl)

@[simp] theorem Sample.value_withLabels (s : Sample) (labels : List (String × String)) :
    (s.withLabels labels).value = s.value := by
  induction labels generalizing s with
  | nil => rfl
  | cons label labels ih => exact ih (s.withLabel label.1 label.2)

/-- Labels with different names are set as they are given: none replaces another. -/
theorem Sample.unlabeled_withLabels (name : String) (value : Binary64)
    {labels : List (String × String)} (h : (labels.map (·.1)).Nodup) :
    (unlabeled name value).withLabels labels = ⟨name, labels, value⟩ := by
  have hs := series_unlabeled_withLabels name value h
  have hv := value_withLabels (unlabeled name value) labels
  cases hw : (unlabeled name value).withLabels labels with
  | mk name' labels' value' =>
    rw [hw] at hs hv
    obtain ⟨rfl, rfl⟩ := Series.mk.inj hs
    exact congrArg (Sample.mk name' labels') hv

theorem TellsProperty.gauge_eq (h : TellsProperty labels) (metric help property : String)
    (n : Binary64) :
    Emission.gauge help ((Sample.unlabeled metric n).withLabels (labels property)) =
      ⟨⟨metric, labels property, n⟩, .gauge, help⟩ :=
  congrArg (Emission.gauge help) (Sample.unlabeled_withLabels metric n (h.nodup property))

theorem CompositeRecord.keys_numbers_sublist (fields : CompositeRecord) :
    (fields.numbers.map (·.1)).Sublist (fields.map (·.1)) := by
  induction fields with
  | nil => exact .slnil
  | cons field fields ih =>
    cases hv : field.2.number? with
    | none => simpa [numbers, hv] using ih.cons field.1
    | some n => simpa [numbers, hv] using ih

theorem Flat.of_numbers (h : TellsProperty labels) (metric help : String) {fields : CompositeRecord}
    (hk : (fields.map (·.1)).Nodup) :
    Flat metric help labels fields (fields.numbers.map fun field =>
      .gauge help ((Sample.unlabeled metric field.2).withLabels (labels field.1))) where
  each := by
    rw [CompositeRecord.map_numbers]
    clear hk
    induction fields with
    | nil => exact .nil
    | cons field fields ih =>
      obtain ⟨property, value⟩ := field
      cases value with
      | number n => exact .cons ⟨n, rfl, h.gauge_eq metric help property n⟩ ih
      | _ => exact ih
  apart := by
    have hd := (CompositeRecord.keys_numbers_sublist fields).nodup hk
    refine List.pairwise_map.mpr ((List.pairwise_map.mp hd).imp ?_)
    rintro ⟨property, n⟩ ⟨property', n'⟩ hne hs
    simp only [h.gauge_eq] at hs
    exact hne (h.eq_of_mem ((hs _).mp (h.mem property)))

/-! ### Pools and statistics -/

variable {σ : Type} [Sink σ]

def poolLabels (name property : String) : List (String × String) :=
  [("name", name), ("property", property)]

theorem tellsProperty_poolLabels (name : String) : TellsProperty (poolLabels name) where
  nodup property := by simp [poolLabels]
  mem property := by simp [poolLabels]

theorem Handlers.flat_recordPool (metric help : String) {record : CompositeRecord}
    (hk : KeyMap.Ascending record) (desk : Desk σ) :
    (∀ name, KeyMap.get? "name" record = some (.string name) → ∃ emissions,
      (recordPool metric help record).perform desk = (.ok true, desk.taking emissions) ∧
        Flat metric help (poolLabels (Text.lower name)) record emissions) ∧
    ((¬ ∃ name, KeyMap.get? "name" record = some (.string name)) →
      (recordPool metric help record).perform desk = (.ok false, desk)) := by
  rw [perform_recordPool, Pool.emissions?, Pool.name?]
  constructor
  · intro name hname
    rw [hname]
    exact ⟨_, rfl, .of_numbers (tellsProperty_poolLabels (Text.lower name)) metric help hk.nodup_keys⟩
  · intro hnone
    have hs : (KeyMap.get? "name" record).bind AttributeValue.string? = none := by
      cases hv : KeyMap.get? "name" record with
      | none => rfl
      | some value =>
        cases value with
        | string name => exact absurd ⟨name, hv⟩ hnone
        | _ => rfl
    rw [hs]
    rfl

theorem NodeInfo.flat_statistics (ns : String) {record : CompositeRecord}
    (hk : KeyMap.Ascending record) (desk : Desk σ) :
    ∃ emissions,
      (Recorder.nodeInfo.call ns "ShardStats" (.composite record)).perform desk =
        (.ok true, desk.taking emissions) ∧
      Flat (ns ++ "_node") shardHelp (poolLabels "shard_stats") record emissions :=
  ⟨statisticsEmissions ns record, Recorder.perform_call .nodeInfo ns "ShardStats" _ desk,
    .of_numbers (tellsProperty_poolLabels "shard_stats") (ns ++ "_node") shardHelp hk.nodup_keys⟩

/-! ### Shards -/

/-- The text of a field as a label. A whole number of at most fifteen digits is written without a point
and without the sign of zero; nothing is written if the field is missing or holds neither a string nor a
boolean nor a number. -/
inductive LabelText (record : CompositeRecord) (field : String) : String → Prop
  | string {s : String} (h : KeyMap.get? field record = some (.string s)) : LabelText record field s
  | yes (h : KeyMap.get? field record = some (.boolean true)) : LabelText record field "true"
  | no (h : KeyMap.get? field record = some (.boolean false)) : LabelText record field "false"
  | whole {n : Binary64} (h : KeyMap.get? field record = some (.number n))
      (hn : n.isIntegral = true ∧ n.absLt (.ofNat (10 ^ 15)) = true) :
      LabelText record field (String.ofList (Binary64.wholeText n.truncate))
  | decimal {n : Binary64} (h : KeyMap.get? field record = some (.number n))
      (hn : ¬ (n.isIntegral = true ∧ n.absLt (.ofNat (10 ^ 15)) = true)) :
      LabelText record field (String.ofList n.decimalText)
  | missing (h : KeyMap.get? field record = none) : LabelText record field ""
  | mistyped {value : AttributeValue} (h : KeyMap.get? field record = some value)
      (hk : value.kind ∉ [ValueKind.string, .boolean, .number]) : LabelText record field ""

theorem Binary64.isPlainWhole_iff {n : Binary64} :
    n.isPlainWhole = true ↔ n.isIntegral = true ∧ n.absLt (.ofNat (10 ^ 15)) = true :=
  Bool.and_eq_true_iff

theorem labelText_number {record : CompositeRecord} {field : String} {n : Binary64}
    (h : KeyMap.get? field record = some (.number n)) :
    LabelText record field (((AttributeValue.number n).labelText?).getD "") := by
  by_cases hn : n.isPlainWhole = true
  · rw [AttributeValue.labelText?, if_pos hn]
    exact .whole h (Binary64.isPlainWhole_iff.mp hn)
  · rw [AttributeValue.labelText?, if_neg hn]
    exact .decimal h fun hw => hn (Binary64.isPlainWhole_iff.mpr hw)

theorem labelText_fieldLabel (record : CompositeRecord) (field : String) :
    LabelText record field (NodeInfo.fieldLabel record field) := by
  unfold NodeInfo.fieldLabel
  cases hv : KeyMap.get? field record with
  | none => exact .missing hv
  | some value =>
    cases value with
    | string s => exact .string hv
    | boolean b =>
      cases b with
      | true => exact .yes hv
      | false => exact .no hv
    | number n => exact labelText_number hv
    | _ => exact .mistyped hv (by simp [AttributeValue.kind])

structure ShardIdentity.Labels (identity : ShardIdentity) (shard : CompositeRecord) : Prop where
  id : LabelText shard "shardId" identity.id
  schema : LabelText shard "schema" identity.schema
  table : LabelText shard "table" identity.table
  partition : LabelText shard "partitionIdent" identity.partition
  primary : LabelText shard "primary" identity.primary

theorem ShardIdentity.labels_self (shard : CompositeRecord) : (of shard).Labels shard where
  id := labelText_fieldLabel shard _
  schema := labelText_fieldLabel shard _
  table := labelText_fieldLabel shard _
  partition := labelText_fieldLabel shard _
  primary := labelText_fieldLabel shard _

def ShardIdentity.sampleLabels (identity : ShardIdentity) (property : String) : List (String × String) :=
  [("name", "shard_info"), ("property", property), ("id", identity.id), ("schema", identity.schema),
   ("table", identity.table), ("partition_ident", identity.partition), ("primary", identity.primary)]

theorem ShardIdentity.tellsProperty_sampleLabels (identity : ShardIdentity) :
    TellsProperty identity.sampleLabels where
  nodup property := by simp [sampleLabels]
  mem property := by simp [sampleLabels]

theorem ShardIdentity.sampleLabels_inj {identity identity' : ShardIdentity}
    {property property' : String} :
    identity.sampleLabels property = identity'.sampleLabels property' ↔
      property = property' ∧ identity = identity' := by
  cases identity
  cases identity'
  simp [sampleLabels]

def measuredFields (shard : CompositeRecord) : CompositeRecord :=
  shard.filter fun field =>
    field.1 ∉ ["shardId", "schema", "table", "partitionIdent", "primary"]

theorem NodeInfo.flat_shardEmissions (ns : String) {shard : CompositeRecord}
    (hk : KeyMap.Ascending shard) :
    Flat (ns ++ "_node") shardHelp (ShardIdentity.of shard).sampleLabels (measuredFields shard)
      (shardEmissions ns shard) := by
  have hm : measured shard = (measuredFields shard).numbers := by
    rw [measured, measuredFields]
    congr 2
    funext field
    simp [NodeInfo.shardLabels, eq_comm]
  have hn : ((measuredFields shard).map (·.1)).Nodup :=
    (List.filter_sublist.map _).nodup hk.nodup_keys
  rw [shardEmissions, hm]
  exact .of_numbers (ShardIdentity.of shard).tellsProperty_sampleLabels (ns ++ "_node") shardHelp hn

theorem NodeInfo.labels_of_mem_shardEmissions {ns : String} {shard : CompositeRecord} {e : Emission}
    (he : e ∈ shardEmissions ns shard) :
    ∃ property, e.sample.labels = (ShardIdentity.of shard).sampleLabels property := by
  obtain ⟨⟨property, n⟩, -, rfl⟩ := List.mem_map.mp he
  have hg := (ShardIdentity.of shard).tellsProperty_sampleLabels.gauge_eq (ns ++ "_node") shardHelp property n
  exact ⟨property, congrArg (fun e => e.sample.labels) hg⟩

/-- Samples of shards have the same labels exactly if they are of one field and the shards are told
apart by none of their texts. -/
theorem NodeInfo.sameLabels_iff {ns : String} {shard shard' : CompositeRecord} {e e' : Emission}
    (he : e ∈ shardEmissions ns shard) (he' : e' ∈ shardEmissions ns shard') :
    SameLabels e e' ↔
      e.sample.label? "property" = e'.sample.label? "property" ∧
        ShardIdentity.of shard = .of shard' := by
  obtain ⟨property, hl⟩ := labels_of_mem_shardEmissions he
  obtain ⟨property', hl'⟩ := labels_of_mem_shardEmissions he'
  have hp : e.sample.label? "property" = some property := by rw [Sample.label?, hl]; rfl
  have hp' : e'.sample.label? "property" = some property' := by rw [Sample.label?, hl']; rfl
  have hn : ((ShardIdentity.of shard).sampleLabels property).map (·.1) =
      ((ShardIdentity.of shard').sampleLabels property').map (·.1) := rfl
  have hd := (ShardIdentity.of shard).tellsProperty_sampleLabels.nodup property
  rw [SameLabels, hl, hl', hp, hp', Option.some.injEq, ← ShardIdentity.sampleLabels_inj]
  constructor
  · exact labels_eq_of_mem_iff hn hd
  · intro heq
    rw [heq]
    exact fun label => .rfl

theorem NodeInfo.flat_shards (ns : String) {shards : List CompositeRecord}
    (hk : ∀ shard ∈ shards, KeyMap.Ascending shard) (desk : Desk σ) :
    ∃ parts : List (List Emission),
      (Recorder.nodeInfo.call ns "ShardInfo" (.compositeArray shards)).perform desk =
        (.ok true, desk.taking parts.flatten) ∧
      List.Forall₂ (fun shard part => ∃ identity : ShardIdentity, identity.Labels shard ∧
        Flat (ns ++ "_node") shardHelp identity.sampleLabels (measuredFields shard) part)
        shards parts ∧
      ∀ one ∈ shards.zip parts, ∀ other ∈ shards.zip parts, ∀ e ∈ one.2, ∀ e' ∈ other.2,
        (SameLabels e e' ↔ e.sample.label? "property" = e'.sample.label? "property" ∧
          ShardIdentity.of one.1 = .of other.1) := by
  refine ⟨shards.map (shardEmissions ns), ?_, ?_, ?_⟩
  · rw [← List.flatMap_def]
    exact Recorder.perform_call .nodeInfo ns "ShardInfo" _ desk
  · refine List.forall₂_map_right_iff.mpr (List.forall₂_same.mpr fun shard hs => ?_)
    exact ⟨.of shard, ShardIdentity.labels_self shard, flat_shardEmissions ns (hk shard hs)⟩
  · rw [← List.map_prod_left_eq_zip]
    intro one hone other hother e he e' he'
    obtain ⟨shard, -, rfl⟩ := List.mem_map.mp hone
    obtain ⟨shard', -, rfl⟩ := List.mem_map.mp hother
    exact sameLabels_iff he he'

/-! ### All records -/

namespace Recorder

theorem flat_pool {recorder : Recorder} (hr : recorder ∈ [threadPools, circuitBreakers])
    {m : RecorderMetric} (hm : m ∈ recorder.metrics) (ns attr : String) {record : CompositeRecord}
    (hk : KeyMap.Ascending record) (desk : Desk σ) :
    (∀ name, KeyMap.get? "name" record = some (.string name) → ∃ emissions,
      (recorder.call ns attr (.composite record)).perform desk = (.ok true, desk.taking emissions) ∧
        Flat (m.name ns) m.help (poolLabels (Text.lower name)) record emissions) ∧
    ((¬ ∃ name, KeyMap.get? "name" record = some (.string name)) →
      (recorder.call ns attr (.composite record)).perform desk = (.ok false, desk)) := by
  have hc : (recorder.call ns attr (.composite record) : Work σ Bool) =
      Handlers.recordPool (m.name ns) m.help record := by
    simp only [List.mem_cons, List.not_mem_nil, or_false] at hr
    obtain rfl | rfl := hr
    · obtain rfl := List.mem_singleton.mp hm
      exact congrArg (Handlers.recordPool · _ record) (RecorderMetric.append_eq_name (by decide) ns)
    · obtain rfl := List.mem_singleton.mp hm
      exact congrArg (Handlers.recordPool · _ record) (RecorderMetric.append_eq_name (by decide) ns)
  rw [hc]
  exact Handlers.flat_recordPool (m.name ns) m.help hk desk

/-- Records are flattened without loss and without addition. The record of a pool gives a sample of
each of its numbers exactly if it has a name; the statistics of the shards give a sample of each of
their numbers; and every shard of a list gives, in its turn, a sample of each of its numbers that is no
label, with the labels of this shard. Within one record no two samples have the same labels, and
samples of two shards have them only if they are of one field and the shards have the same texts as
labels. -/
theorem records_flattened (ns : String) (desk : Desk σ) :
    (∀ recorder ∈ [threadPools, circuitBreakers], ∀ m ∈ recorder.metrics, ∀ attr record,
      KeyMap.Ascending record →
        (∀ name, KeyMap.get? "name" record = some (.string name) → ∃ emissions,
          (recorder.call ns attr (.composite record)).perform desk =
              (.ok true, desk.taking emissions) ∧
            Flat (m.name ns) m.help (poolLabels (Text.lower name)) record emissions) ∧
        ((¬ ∃ name, KeyMap.get? "name" record = some (.string name)) →
          (recorder.call ns attr (.composite record)).perform desk = (.ok false, desk))) ∧
    (∀ record, KeyMap.Ascending record → ∃ emissions,
      (nodeInfo.call ns "ShardStats" (.composite record)).perform desk =
          (.ok true, desk.taking emissions) ∧
        Flat (ns ++ "_node") NodeInfo.shardHelp (poolLabels "shard_stats") record emissions) ∧
    (∀ shards, (∀ shard ∈ shards, KeyMap.Ascending shard) → ∃ parts : List (List Emission),
      (nodeInfo.call ns "ShardInfo" (.compositeArray shards)).perform desk =
          (.ok true, desk.taking parts.flatten) ∧
        List.Forall₂ (fun shard part => ∃ identity : ShardIdentity, identity.Labels shard ∧
          Flat (ns ++ "_node") NodeInfo.shardHelp identity.sampleLabels (measuredFields shard) part)
          shards parts ∧
        ∀ one ∈ shards.zip parts, ∀ other ∈ shards.zip parts, ∀ e ∈ one.2, ∀ e' ∈ other.2,
          (SameLabels e e' ↔ e.sample.label? "property" = e'.sample.label? "property" ∧
            ShardIdentity.of one.1 = .of other.1)) := by
  refine ⟨?_, ?_, ?_⟩
  · intro recorder hr m hm attr record hk
    exact flat_pool hr hm ns attr hk desk
  · intro record hk
    exact NodeInfo.flat_statistics ns hk desk
  · intro shards hk
    exact NodeInfo.flat_shards ns hk desk

/-- A pool with its name in capitals and a field that is no number. -/
def searchPool : CompositeRecord :=
  [("active", .number .one), ("enabled", .boolean true), ("name", .string "SEARCH"),
   ("rejected", .number .zero)]

/-- A shard whose schema is of the wrong form, and one that has no labels at all. -/
def twoShards : List CompositeRecord :=
  [[("primary", .boolean true), ("schema", .null), ("shardId", .number .zero), ("size", .number .one),
    ("table", .string "t1")],
   [("docs", .number .one), ("size", .number .zero)]]

theorem records_flattened_twoShards :
    let desk : Desk (List Emission) := ⟨.initial, []⟩
    KeyMap.Ascending searchPool ∧ (∀ shard ∈ twoShards, KeyMap.Ascending shard) ∧
    (∃ emissions,
      (threadPools.call "crate" "Search" (.composite searchPool)).perform desk =
          (.ok true, desk.taking emissions) ∧
        Flat "crate_threadpools" "Statistics of thread pools" (poolLabels "search") searchPool
          emissions) ∧
    ∃ parts : List (List Emission),
      (nodeInfo.call "crate" "ShardInfo" (.compositeArray twoShards)).perform desk =
          (.ok true, desk.taking parts.flatten) ∧
        List.Forall₂ (fun shard part => ∃ identity : ShardIdentity, identity.Labels shard ∧
          Flat "crate_node" NodeInfo.shardHelp identity.sampleLabels (measuredFields shard) part)
          twoShards parts := by
  intro desk
  have hp : KeyMap.Ascending searchPool := by
    unfold KeyMap.Ascending
    decide
  have hs : ∀ shard ∈ twoShards, KeyMap.Ascending shard := by
    unfold KeyMap.Ascending
    decide
  obtain ⟨hpools, -, hshards⟩ := records_flattened "crate" desk
  refine ⟨hp, hs, ?_, ?_⟩
  · exact (hpools threadPools (by simp) _ List.mem_cons_self "Search" searchPool hp).1 "SEARCH" rfl
  · obtain ⟨parts, hcall, heach, -⟩ := hshards twoShards hs
    exact ⟨parts, hcall, heach⟩

end Recorder
end BeanMetrics
