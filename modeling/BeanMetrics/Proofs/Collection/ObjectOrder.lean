import BeanMetrics.Proofs.Collection.Counts
import BeanMetrics.Proofs.Collection.Listing
import BeanMetrics.Proofs.Collection.StableGrouping
import BeanMetrics.Proofs.Collection.Writes

/-!
The order in which a snapshot lists its objects. Listed in another order, different objects give the
same readings object by object, so a pass succeeds or fails as before, counts the same and has the
same samples in its families. Only the identity of the node is put together from several readings:
if several objects tell it, the order decides which id and which name it gets.
-/

namespace BeanMetrics

/-- The same samples in any order, but for the id and the name in the one sample that says who the
node is. -/
def SameButIdentity (ns : String) (samples samples' : List Sample) : Prop :=
  ∃ id name id' name' rest,
    samples.Perm ((NodeInfo.identityEmission ns id name).sample :: rest) ∧
      samples'.Perm ((NodeInfo.identityEmission ns id' name').sample :: rest) ∧
      ∀ sample ∈ rest, sample.labels.map (·.1) ≠ ["id", "name"]

/-! ### The readings in another order -/

namespace Pass

def nodes (registry : Registry) (pattern : Option Pattern) : List ObjectName :=
  (objects registry pattern).filter (·.kind = "NodeInfo")

theorem identityParts_readingsOf_of_ne {object : ObjectName} (h : object.kind ≠ "NodeInfo")
    (registry : Registry) : (readingsOf registry object).filterMap Reading.identityPart? = [] := by
  rw [List.filterMap_eq_nil_iff]
  intro x hx
  rw [Option.eq_none_iff_forall_ne_some]
  intro part hp
  exact h (object_of_mem_readingsOf hx ▸ (Reading.of_identityPart? hp).1)

theorem identityParts_filter (registry : Registry) (names : List ObjectName) :
    (names.flatMap (readingsOf registry)).filterMap Reading.identityPart? =
      ((names.filter (·.kind = "NodeInfo")).flatMap (readingsOf registry)).filterMap
        Reading.identityPart? := by
  induction names with
  | nil => rfl
  | cons name names ih =>
    rw [List.flatMap_cons, List.filterMap_append, ih]
    by_cases hk : name.kind = "NodeInfo"
    · rw [List.filter_cons_of_pos (by simpa using hk), List.flatMap_cons, List.filterMap_append]
    · rw [List.filter_cons_of_neg (by simpa using hk), identityParts_readingsOf_of_ne hk,
        List.nil_append]

theorem identityParts_readings (registry : Registry) (pattern : Option Pattern) :
    (readings registry pattern).filterMap Reading.identityPart? =
      ((nodes registry pattern).flatMap (readingsOf registry)).filterMap Reading.identityPart? :=
  identityParts_filter registry (objects registry pattern)

variable {s : Snapshot} {listed : List SnapshotObject}

theorem agree_of_perm (hd : s.Distinct) (hp : s.objects.Perm listed) {pattern : Option Pattern}
    {object : ObjectName} (hm : object ∈ objects s.registry pattern) :
    s.registry.Agree (s.relist listed).registry object := by
  obtain ⟨found, hf, rfl⟩ := exists_of_mem_objects hm
  have hd' : (s.relist listed).Distinct := hd.perm hp
  exact Snapshot.agree_of_find?_eq ((hd.find?_eq hf).trans (hd'.find?_eq (hp.mem_iff.mp hf)).symm)

theorem readings_perm (hd : s.Distinct) (hp : s.objects.Perm listed) (pattern : Option Pattern) :
    (readings s.registry pattern).Perm (readings (s.relist listed).registry pattern) := by
  refine (objects_perm hp pattern).flatMap fun object hm => ?_
  rw [readingsOf_congr (agree_of_perm hd hp hm)]

theorem eq_of_perm_of_length_le_one {names names' : List ObjectName} (hp : names.Perm names')
    (h : names.length ≤ 1) : names = names' := by
  match names, h with
  | [], _ => exact (List.nil_perm.mp hp).symm
  | [_], _ => exact List.singleton_perm.mp hp
  | _ :: _ :: _, h => simp at h

/-- If only one object is of the node's kind, its identity is told in the same order. -/
theorem identityParts_perm (hd : s.Distinct) (hp : s.objects.Perm listed) {pattern : Option Pattern}
    (h : (nodes s.registry pattern).length ≤ 1) :
    (readings s.registry pattern).filterMap Reading.identityPart? =
      (readings (s.relist listed).registry pattern).filterMap Reading.identityPart? := by
  have hn : nodes s.registry pattern = nodes (s.relist listed).registry pattern :=
    eq_of_perm_of_length_le_one ((objects_perm hp pattern).filter _) h
  have hr : (nodes s.registry pattern).flatMap (readingsOf s.registry) =
      (nodes s.registry pattern).flatMap (readingsOf (s.relist listed).registry) :=
    List.flatMap_congr fun object hm =>
      readingsOf_congr (agree_of_perm hd hp (List.mem_of_mem_filter hm))
  rw [identityParts_readings, identityParts_readings, hr, hn]

/-! ### The emissions in another order -/

/-- What is emitted is the same, but for the id and the name of the node if several objects tell
them. -/
theorem emissions_perm (hd : s.Distinct) (hp : s.objects.Perm listed) {settings : Settings}
    {pattern : Option Pattern} {emissions emissions' : List Emission}
    (h : trace settings .initial (readings s.registry pattern) = .ok emissions)
    (h' : trace settings .initial (readings (s.relist listed).registry pattern) = .ok emissions') :
    emissions.Perm emissions' ∨
      1 < (nodes s.registry pattern).length ∧
        ∃ id name id' name' own,
          emissions.Perm (NodeInfo.identityEmission settings.namespaceName id name :: own) ∧
          emissions'.Perm (NodeInfo.identityEmission settings.namespaceName id' name' :: own) ∧
          ∀ e ∈ own, e.sample.labels.map (·.1) ≠ ["id", "name"] := by
  have hr := readings_perm hd hp pattern
  have ho := hr.flatMap_right (Reading.ownEmissions settings)
  have ht := trace_perm h
  have ht' := (trace_perm h').trans (ho.symm.append_left _)
  have hi : Recorders.initial.node = .unknown := rfl
  -- one object tells its parts in one order; with several, the order settles which one completes them
  by_cases hc : (nodes s.registry pattern).length ≤ 1
  · left
    rw [← identityParts_perm hd hp hc] at ht'
    exact ht.trans ht'.symm
  · rcases NodeInfo.introductions_perm settings.namespaceName
      (hr.filterMap Reading.identityPart?) with he | ⟨id, name, id', name', he, he'⟩
    · left
      rw [hi, he] at ht
      exact ht.trans ht'.symm
    · refine .inr ⟨Nat.lt_of_not_le hc, id, name, id', name',
        (readings s.registry pattern).flatMap (Reading.ownEmissions settings), ?_, ?_, ?_⟩
      · rwa [hi, he] at ht
      · rwa [hi, he'] at ht'
      · intro e hm
        obtain ⟨x, -, hx⟩ := List.mem_flatMap.mp hm
        exact Reading.labelNames_of_mem_ownEmissions hx

end Pass

/-! ### The families in another order -/

namespace FamilyMap

theorem madeUnder_sameButIdentity {ns id name id' name' : String}
    {emissions emissions' own : List Emission}
    (h : emissions.Perm (NodeInfo.identityEmission ns id name :: own))
    (h' : emissions'.Perm (NodeInfo.identityEmission ns id' name' :: own))
    (ho : ∀ e ∈ own, e.sample.labels.map (·.1) ≠ ["id", "name"]) (metric : String) :
    (madeUnder metric emissions).Perm (madeUnder metric emissions') ∨
      SameButIdentity ns (madeUnder metric emissions) (madeUnder metric emissions') := by
  have hm := madeUnder_perm h metric
  have hm' := madeUnder_perm h' metric
  rw [madeUnder_cons] at hm hm'
  by_cases hn : ns ++ "_node_info" = metric
  · have hid : (NodeInfo.identityEmission ns id name).sample.name = metric := hn
    have hid' : (NodeInfo.identityEmission ns id' name').sample.name = metric := hn
    rw [if_pos hid] at hm
    rw [if_pos hid'] at hm'
    refine .inr ⟨id, name, id', name', madeUnder metric own, hm, hm', ?_⟩
    intro sample hs
    obtain ⟨e, he, rfl⟩ := List.mem_map.mp hs
    exact ho e (List.mem_of_mem_filter he)
  · have hid : (NodeInfo.identityEmission ns id name).sample.name ≠ metric := hn
    have hid' : (NodeInfo.identityEmission ns id' name').sample.name ≠ metric := hn
    rw [if_neg hid] at hm
    rw [if_neg hid'] at hm'
    exact .inl (hm.trans hm'.symm)

end FamilyMap

namespace Engine

theorem counts_perm {e : Engine} {s : Snapshot} {listed : List SnapshotObject} (hd : s.Distinct)
    (hp : s.objects.Perm listed) {nanos : Nat} {families families' : List Family}
    (h : (e.collect s.registry nanos).2 = .ok families)
    (h' : (e.collect (s.relist listed).registry nanos).2 = .ok families') :
    e.counts s.registry = e.counts (s.relist listed).registry := by
  rw [counts, counts, Pass.stats_run (violation_of_collect h),
    Pass.stats_run (violation_of_collect h')]
  refine PassStats.total_perm ?_
  refine .trans ?_ ((Pass.objects_perm hp e.pattern).map _)
  refine .of_eq (List.map_congr_left fun object hm => ?_)
  rw [Pass.objectStep_congr (Pass.agree_of_perm hd hp hm)]

theorem isOk_perm (e : Engine) {s : Snapshot} {listed : List SnapshotObject} (hd : s.Distinct)
    (hp : s.objects.Perm listed) (nanos : Nat) :
    (e.collect s.registry nanos).2.isOk = (e.collect (s.relist listed).registry nanos).2.isOk := by
  have hr := Pass.readings_perm hd hp e.pattern
  rw [Bool.eq_iff_iff, isOk_collect, isOk_collect]
  exact ⟨fun h x hx => h x (hr.mem_iff.mpr hx), fun h x hx => h x (hr.mem_iff.mp hx)⟩

theorem telemetry_perm (e : Engine) {s : Snapshot} {listed : List SnapshotObject} (hd : s.Distinct)
    (hp : s.objects.Perm listed) (nanos : Nat) :
    (e.collect s.registry nanos).1.telemetry =
      (e.collect (s.relist listed).registry nanos).1.telemetry := by
  have hok := isOk_perm e hd hp nanos
  rw [telemetry_collect, telemetry_collect]
  match hb : (e.collect s.registry nanos).2, ha : (e.collect (s.relist listed).registry nanos).2 with
  | .ok _, .ok _ => rw [counts_perm hd hp hb ha]
  | .error _, .error _ => rfl
  | .ok _, .error _ | .error _, .ok _ =>
    rw [hb, ha] at hok
    cases hok

/-- Different objects listed in another order make a pass succeed or fail as before and count the same.
In the families there are the same samples; only if several objects are of the node's kind, the node
may go by another id or name. -/
theorem collect_relist (e : Engine) {s : Snapshot} (hd : s.Distinct) {listed : List SnapshotObject}
    (hp : s.objects.Perm listed) (nanos : Nat) :
    let before := e.collect s.registry nanos
    let after := e.collect (s.relist listed).registry nanos
    before.2.isOk = after.2.isOk ∧
      before.1.telemetry = after.1.telemetry ∧
      ∀ families families', before.2 = .ok families → after.2 = .ok families' →
        families.map (·.name) = families'.map (·.name) ∧
        e.counts s.registry = e.counts (s.relist listed).registry ∧
        ∀ name,
          (FamilyMap.samplesUnder name families).Perm (FamilyMap.samplesUnder name families') ∨
          1 < (Pass.nodes s.registry e.pattern).length ∧
            SameButIdentity e.settings.namespaceName (FamilyMap.samplesUnder name families)
              (FamilyMap.samplesUnder name families') := by
  intro before after
  refine ⟨isOk_perm e hd hp nanos, telemetry_perm e hd hp nanos, ?_⟩
  intro families families' hb ha
  obtain ⟨emissions, ht, rfl⟩ := trace_of_collect hb
  obtain ⟨emissions', ht', rfl⟩ := trace_of_collect ha
  have he := Pass.emissions_perm hd hp ht ht'
  have hn : (emissions.map (·.sample.name)).Perm (emissions'.map (·.sample.name)) := by
    rcases he with he | ⟨-, id, node, id', node', own, he, he', -⟩
    · exact he.map _
    · exact (he.map (·.sample.name)).trans (he'.map (·.sample.name)).symm
  refine ⟨?_, counts_perm hd hp hb ha, fun name => ?_⟩
  · rw [FamilyMap.map_name_grouping, FamilyMap.map_name_grouping, FamilyMap.namesOf_perm hn]
  · rw [FamilyMap.samplesUnder_grouping, FamilyMap.samplesUnder_grouping]
    rcases he with he | ⟨hc, id, node, id', node', own, he, he', ho⟩
    · exact .inl (FamilyMap.madeUnder_perm he name)
    · exact (FamilyMap.madeUnder_sameButIdentity he he' ho name).imp_right fun hs => ⟨hc, hs⟩

end Engine

def SnapshotObject.ofNode (number id name : String) : SnapshotObject :=
  ((named ⟨"io.crate.monitoring", [("type", "NodeInfo"), ("number", number)]⟩).withAttribute
    ⟨"NodeId", "java.lang.String", "", true⟩ (.string id)).withAttribute
    ⟨"NodeName", "java.lang.String", "", true⟩ (.string name)

/-- Two objects that say who the node is, and do not agree, and one of another kind. -/
def Snapshot.twoNodes : Snapshot where
  objects :=
    [.ofNode "1" "n1" "Aconcagua",
     (SnapshotObject.named ⟨"io.crate.monitoring", [("type", "Cluster")]⟩).withAttribute
      ⟨"NodeCount", "int", "", true⟩ (.number .one),
     .ofNode "2" "n2" "Huascaran"]
  unavailable := none

def Family.ofNodes (id name : String) : List Family :=
  [.single "crate_cluster_node_count" .untyped " (io.crate.monitoring<type=Cluster>NodeCount)" .one,
   ⟨"crate_node_info", .untyped, "Node information.",
      [⟨"crate_node_info", [("id", id), ("name", name)], .one⟩]⟩]

theorem Engine.collect_relist_twoNodes :
    let e := create .default (.since .zero)
    let listed := Snapshot.twoNodes.objects.reverse
    Snapshot.twoNodes.Distinct ∧ Snapshot.twoNodes.objects.Perm listed ∧
      (e.collect Snapshot.twoNodes.registry 0).2 = .ok (Family.ofNodes "n1" "Aconcagua") ∧
      (e.collect (Snapshot.twoNodes.relist listed).registry 0).2 =
        .ok (Family.ofNodes "n2" "Huascaran") ∧
      ∀ name,
        (FamilyMap.samplesUnder name (Family.ofNodes "n1" "Aconcagua")).Perm
          (FamilyMap.samplesUnder name (Family.ofNodes "n2" "Huascaran")) ∨
        1 < (Pass.nodes Snapshot.twoNodes.registry e.pattern).length ∧
          SameButIdentity e.settings.namespaceName
            (FamilyMap.samplesUnder name (Family.ofNodes "n1" "Aconcagua"))
            (FamilyMap.samplesUnder name (Family.ofNodes "n2" "Huascaran")) := by
  intro e listed
  have hd : Snapshot.twoNodes.Distinct := by decide
  have hp : Snapshot.twoNodes.objects.Perm listed := (List.reverse_perm _).symm
  have hb : (e.collect Snapshot.twoNodes.registry 0).2 = .ok (Family.ofNodes "n1" "Aconcagua") := by
    decide +kernel
  have ha : (e.collect (Snapshot.twoNodes.relist listed).registry 0).2 =
      .ok (Family.ofNodes "n2" "Huascaran") := by
    decide +kernel
  obtain ⟨-, -, hs⟩ := collect_relist e hd hp 0
  exact ⟨hd, hp, hb, ha, (hs _ _ hb ha).2.2⟩

end BeanMetrics
