import BeanMetrics.Proofs.Collection.Isolation
import BeanMetrics.Proofs.Collection.StableGrouping
import BeanMetrics.Proofs.Config.Valid
import BeanMetrics.Proofs.Metric.Merged
import BeanMetrics.Proofs.Recorder.Metrics

/-!
Numbers without recorder among those that have one. Their names are made in another way, but nothing
keeps them apart from the names of the recorders' metrics: a kind of object and an attribute may come
to the same ending. Where that does not happen, the families of a pass are those of the objects with
recorder and those of the others, and no order of objects changes a type or a help text.
-/

namespace BeanMetrics
namespace Reading

def isRecorded (x : Reading) : Bool := (Recorder.ofKind? x.object.kind).isSome

def fallbackEmission? (s : Settings) (x : Reading) : Option Emission :=
  if x.isRecorded then none
  else x.number?.map (Pass.fallbackEmission s x.object x.descriptor)

theorem outcome_of_not_isRecorded {x : Reading} (h : x.isRecorded = false) (s : Settings)
    (r : Recorders) :
    x.outcome s r = .ok ((x.fallbackEmission? s).map fun e => ⟨r, [e]⟩) := by
  have hk : Recorder.ofKind? x.object.kind = none := by simpa [isRecorded] using h
  rw [outcome, hk, fallbackEmission?, h]
  cases x.number? <;> rfl

theorem emits_of_outcome {x : Reading} (hx : x.isRecorded = true) {s : Settings} {r : Recorders}
    {recorded : Recorded} (h : x.outcome s r = .ok (some recorded)) :
    ∀ e ∈ recorded.emissions, ∃ recorder : Recorder, recorder.Emits s.namespaceName e := by
  obtain ⟨recorder, hk⟩ := Option.isSome_iff_exists.mp hx
  rw [outcome, hk] at h
  exact fun e he => ⟨recorder, r, _, _, recorded, h, he⟩

end Reading

namespace Pass

theorem emits_of_trace {s : Settings} {r : Recorders} {xs : List Reading} {emissions : List Emission}
    (hx : ∀ x ∈ xs, x.isRecorded = true) (h : trace s r xs = .ok emissions) :
    ∀ e ∈ emissions, ∃ recorder : Recorder, recorder.Emits s.namespaceName e := by
  induction xs generalizing r emissions with
  | nil =>
    obtain rfl := Except.ok.inj h
    exact fun e he => absurd he List.not_mem_nil
  | cons x xs ih =>
    obtain ⟨hh, ht⟩ := List.forall_mem_cons.mp hx
    rw [trace] at h
    split at h
    · rename_i recorded ho
      obtain ⟨later, hl, rfl⟩ := exists_of_map_eq_ok h
      intro e he
      rcases List.mem_append.mp he with hm | hm
      · exact Reading.emits_of_outcome hh ho e hm
      · exact ih ht hl e hm
    · exact ih ht h
    · cases h

/-- A pass emits what the readings with a recorder come to when they are alone, and among that what is
made of the other ones. -/
theorem merged_trace {s : Settings} {r : Recorders} {xs : List Reading} {emissions : List Emission}
    (h : trace s r xs = .ok emissions) :
    ∃ recorded, trace s r (xs.filter Reading.isRecorded) = .ok recorded ∧
      Merged recorded (xs.filterMap (Reading.fallbackEmission? s)) emissions := by
  induction xs generalizing r emissions with
  | nil =>
    obtain rfl := Except.ok.inj h
    exact ⟨[], rfl, .nil⟩
  | cons x xs ih =>
    cases hx : x.isRecorded with
    | true =>
      have hn : x.fallbackEmission? s = none := by simp [Reading.fallbackEmission?, hx]
      rw [List.filter_cons_of_pos hx, List.filterMap_cons_none hn]
      rw [trace] at h ⊢
      split at h
      · obtain ⟨later, hl, rfl⟩ := exists_of_map_eq_ok h
        obtain ⟨recorded, hr, hm⟩ := ih hl
        exact ⟨_, by simp [hr, Except.map], hm.append_left _⟩
      · exact ih h
      · cases h
    | false =>
      have ho := Reading.outcome_of_not_isRecorded hx s r
      rw [trace, ho] at h
      rw [List.filter_cons_of_neg (by simp [hx])]
      cases he : x.fallbackEmission? s with
      | none =>
        rw [he] at h
        rw [List.filterMap_cons_none he]
        exact ih h
      | some e =>
        rw [he] at h
        obtain ⟨later, hl, rfl⟩ := exists_of_map_eq_ok h
        obtain ⟨recorded, hr, hm⟩ := ih hl
        rw [List.filterMap_cons_some he]
        exact ⟨recorded, hr, hm.right⟩

/-! ### Names -/

section

variable {s : Settings} {object : ObjectName} {d : AttributeDescriptor}

/-- Only a namespace that is in snake case already can be met by a name in snake case. -/
theorem snake_namespaceName_of_isName
    (h : Recorder.IsName s.namespaceName (fallbackName s object d)) :
    MetricName.snake (s.namespaceName ++ "_") = s.namespaceName ++ "_" := by
  obtain ⟨recorder, m, -, hm⟩ := Recorder.isName_iff.mp h
  exact MetricName.snake_eq_self_of_append hm

/-- Under a namespace in snake case only what comes behind it counts. -/
theorem fallbackName_eq_name_iff (hd : metricDomain s object = s.namespaceName)
    (hn : s.namespaceName ≠ "")
    (hs : MetricName.snake (s.namespaceName ++ "_") = s.namespaceName ++ "_") {m : RecorderMetric}
    (hm : m.suffix ≠ "") :
    fallbackName s object d = m.name s.namespaceName ↔
      MetricName.snake ("_" ++ MetricName.joinComponents [object.kind, d.name]) = "_" ++ m.suffix := by
  rw [fallbackName, hd, MetricName.joinComponents_cons hn]
  by_cases hempty : [object.kind, d.name].all (· = "")
  · -- neither side can hold: the name has no ending, and what comes behind it is `_` alone
    have hj : MetricName.joinComponents [object.kind, d.name] = "" := by
      obtain ⟨hk, ha⟩ : object.kind = "" ∧ d.name = "" := by simpa using hempty
      rw [hk, ha]
      decide
    have hsuffix : "_" ++ m.suffix ≠ "" := by simp
    have hu : MetricName.snake ("_" ++ "") = "_" := by decide
    rw [if_pos hempty, hj, RecorderMetric.name, String.append_assoc, hu]
    refine iff_of_false (MetricName.snake_ne_append hsuffix) fun he => hm ?_
    simpa using congrArg String.toList he
  · rw [if_neg hempty, MetricName.snake_append_of_eq_self hs, RecorderMetric.name,
      String.append_assoc, String.append_right_inj]

/-- Under the namespace, a number without recorder comes to the name of a recorder's metric exactly if
the kind of its object and its attribute come to the ending of one. -/
theorem isName_fallbackName_iff (hd : metricDomain s object = s.namespaceName)
    (hn : s.namespaceName ≠ "") :
    Recorder.IsName s.namespaceName (fallbackName s object d) ↔
      MetricName.snake (s.namespaceName ++ "_") = s.namespaceName ++ "_" ∧
        ∃ recorder, ∃ m ∈ Recorder.metrics recorder,
          MetricName.snake ("_" ++ MetricName.joinComponents [object.kind, d.name]) =
            "_" ++ m.suffix := by
  rw [Recorder.isName_iff]
  constructor
  · rintro ⟨recorder, m, hm, he⟩
    have hs := MetricName.snake_eq_self_of_append he
    have hne := Recorder.suffix_ne_empty m hm
    exact ⟨hs, recorder, m, hm, (fallbackName_eq_name_iff hd hn hs hne).mp he⟩
  · rintro ⟨hs, recorder, m, hm, he⟩
    have hne := Recorder.suffix_ne_empty m hm
    exact ⟨recorder, m, hm, (fallbackName_eq_name_iff hd hn hs hne).mpr he⟩

end

end Pass

/-- When a number without recorder comes under the name of a recorder's metric. It can only if the
namespace is in snake case, and an object of the domain does so if its kind and its attribute come to
the ending of a metric. The families of a pass are those of the objects with recorder and those of the
others exactly if that does not happen in it. -/
theorem Engine.sides_apart_iff {c : Config} (hc : c.validate = .ok ()) :
    let s := c.settings
    let ns := s.namespaceName
    (∀ object d, Recorder.IsName ns (Pass.fallbackName s object d) →
      MetricName.snake (ns ++ "_") = ns ++ "_") ∧
    (∀ object d, object.domain = s.sourceDomain →
      (Recorder.IsName ns (Pass.fallbackName s object d) ↔
        MetricName.snake (ns ++ "_") = ns ++ "_" ∧
          ∃ recorder, ∃ m ∈ Recorder.metrics recorder,
            MetricName.snake ("_" ++ MetricName.joinComponents [object.kind, d.name]) =
              "_" ++ m.suffix)) ∧
    ∀ (e : Engine) (t : Telemetry) (registry : Registry) (nanos : Nat) (families : List Family),
      Alike e (create s t) → (e.collect registry nanos).2 = .ok families →
      let xs := Pass.readings registry e.pattern
      let unrecorded := xs.filterMap (Reading.fallbackEmission? s)
      ∃ recorded, Pass.trace s .initial (xs.filter Reading.isRecorded) = .ok recorded ∧
        (∀ emission ∈ recorded, ∃ recorder, ∃ m ∈ Recorder.metrics recorder, emission.IsOf ns m) ∧
        (families.Perm (FamilyMap.grouping recorded ++ FamilyMap.grouping unrecorded) ↔
          FamilyMap.Apart recorded unrecorded) := by
  intro s ns
  refine ⟨fun object d => Pass.snake_namespaceName_of_isName, fun object d hd => ?_, ?_⟩
  · have hm := Pass.metricDomain_of_domain_eq hd (Config.domain_ne_empty hc)
    exact Pass.isName_fallbackName_iff hm (Config.namespaceName_ne_empty hc)
  · intro e t registry nanos families ha h xs unrecorded
    obtain ⟨emissions, ht, rfl⟩ := trace_of_collect h
    rw [ha.settings] at ht
    obtain ⟨recorded, hr, hm⟩ := Pass.merged_trace ht
    refine ⟨recorded, hr, fun emission he => ?_, FamilyMap.grouping_perm_append_iff hm⟩
    have hx : ∀ x ∈ xs.filter Reading.isRecorded, x.isRecorded = true := fun x hx =>
      (List.mem_filter.mp hx).2
    obtain ⟨recorder, hemits⟩ := Pass.emits_of_trace hx hr emission he
    exact ⟨recorder, hemits.exists_metric⟩

theorem Engine.sides_apart_iff_interleaved :
    let s := Config.default.settings
    let e := create s (.since .zero)
    let xs := Pass.readings Snapshot.interleaved.registry e.pattern
    let unrecorded := xs.filterMap (Reading.fallbackEmission? s)
    Config.default.validate = .ok () ∧
      Recorder.IsName "crate" (Pass.fallbackName s ⟨"io.crate.monitoring", [("type", "Cluster")]⟩
        ⟨"StateVersion", "long", "", true⟩) ∧
      (e.collect Snapshot.interleaved.registry 0).2 = .ok Family.interleaved ∧
      ∃ recorded, Pass.trace s .initial (xs.filter Reading.isRecorded) = .ok recorded ∧
        Family.interleaved.Perm (FamilyMap.grouping recorded ++ FamilyMap.grouping unrecorded) := by
  intro s e xs unrecorded
  have hc : Config.default.validate = .ok () := by decide +kernel
  have hr : (e.collect Snapshot.interleaved.registry 0).2 = .ok Family.interleaved := by
    decide +kernel
  have hapart : (Pass.trace s .initial (xs.filter Reading.isRecorded)).toOption.all
      (fun recorded => FamilyMap.Apart recorded unrecorded) = true := by
    decide +kernel
  obtain ⟨-, hname, hsides⟩ := sides_apart_iff hc
  obtain ⟨recorded, ht, -, hperm⟩ :=
    hsides e (.since .zero) Snapshot.interleaved.registry 0 Family.interleaved (.refl e) hr
  rw [show Pass.trace s .initial (xs.filter Reading.isRecorded) = .ok recorded from ht] at hapart
  refine ⟨hc, (hname _ _ rfl).mpr ⟨by decide, .nodeInfo, _, List.mem_cons_self, by decide⟩, hr,
    recorded, ht, hperm.mpr (of_decide_eq_true hapart)⟩

/-- The version of the cluster's state, as it is told by the node and by the cluster. -/
def Snapshot.twoVersions : Snapshot where
  objects :=
    [(SnapshotObject.named ⟨"io.crate.monitoring", [("type", "NodeInfo")]⟩).withAttribute
      ⟨"ClusterStateVersion", "long", "", true⟩ (.number .one),
     (SnapshotObject.named ⟨"io.crate.monitoring", [("type", "Cluster")]⟩).withAttribute
      ⟨"StateVersion", "long", "", true⟩ (.number .zero)]
  unavailable := none

def Family.nodeFirst : Family :=
  ⟨"crate_cluster_state_version", .gauge, "The current version of the cluster state.",
    [.unlabeled "crate_cluster_state_version" .one, .unlabeled "crate_cluster_state_version" .zero]⟩

def Family.clusterFirst : Family :=
  ⟨"crate_cluster_state_version", .untyped, " (io.crate.monitoring<type=Cluster>StateVersion)",
    [.unlabeled "crate_cluster_state_version" .zero, .unlabeled "crate_cluster_state_version" .one]⟩

/-- A number without recorder has the name of a recorder's metric in a valid configuration, and then the
type and the help text of the family depend on which object is read first. -/
theorem Engine.sides_meet_twoVersions :
    let s := Config.default.settings
    let e := create s (.since .zero)
    let listed := Snapshot.twoVersions.objects.reverse
    Config.default.validate = .ok () ∧
      Recorder.IsName "crate" (Pass.fallbackName s ⟨"io.crate.monitoring", [("type", "Cluster")]⟩
        ⟨"StateVersion", "long", "", true⟩) ∧
      (e.collect Snapshot.twoVersions.registry 0).2 = .ok [Family.nodeFirst] ∧
      (e.collect (Snapshot.mk listed none).registry 0).2 = .ok [Family.clusterFirst] := by
  intro s e listed
  refine ⟨by decide +kernel, ?_, by decide +kernel, by decide +kernel⟩
  exact Recorder.isName_iff.mpr ⟨.nodeInfo, _, List.mem_cons_self, by decide +kernel⟩

end BeanMetrics
