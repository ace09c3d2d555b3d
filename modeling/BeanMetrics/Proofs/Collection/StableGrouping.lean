import BeanMetrics.Proofs.Collection.Contribution
import BeanMetrics.Proofs.Metric.Grouping

/-!
What a pass comes to. Its result is the trace of its readings, grouped by name, or the first
violation among them; nothing that an engine keeps from earlier passes has a part in it.
-/

namespace BeanMetrics

theorem Engine.result_collect (e : Engine) (registry : Registry) (nanos : Nat) :
    (e.collect registry nanos).2 =
      (Pass.trace e.settings .initial (Pass.readings registry e.pattern)).map
        FamilyMap.grouping := by
  have hr := Pass.result_run e.settings e.pattern registry e.recorders
  rw [← hr, Engine.collect, Run.result]
  cases (Pass.run e.settings e.pattern registry e.recorders).violation with
  | none => simp [Except.map, FamilyMap.families_ofEmissions]
  | some violation => rfl

theorem Engine.isOk_collect {e : Engine} {registry : Registry} {nanos : Nat} :
    (e.collect registry nanos).2.isOk ↔
      ∀ x ∈ Pass.readings registry e.pattern, (x.own e.settings).isOk := by
  rw [result_collect, Pass.isOk_map, Pass.trace_isOk_iff]

theorem Engine.trace_of_collect {e : Engine} {registry : Registry} {nanos : Nat} {families : List Family}
    (h : (e.collect registry nanos).2 = .ok families) :
    ∃ emissions, Pass.trace e.settings .initial (Pass.readings registry e.pattern) = .ok emissions ∧
      FamilyMap.grouping emissions = families := by
  rw [result_collect] at h
  exact Pass.exists_of_map_eq_ok h

/-- The families of a pass are what its readings emit, grouped by name: every emission is in them
once and in its order, the first one under a name settles the family's type and help text, and no
sample has two labels of one name. -/
theorem Engine.grouping_of_collect {e : Engine} {registry : Registry} {nanos : Nat}
    {families : List Family} (h : (e.collect registry nanos).2 = .ok families) :
    ∃ emissions, Pass.trace e.settings .initial (Pass.readings registry e.pattern) = .ok emissions ∧
      families = FamilyMap.grouping emissions ∧
      families.Pairwise (·.name < ·.name) ∧
      (families.flatMap (·.samples)).Perm (emissions.map (·.sample)) ∧
      ∀ f ∈ families,
        f.samples ≠ [] ∧
        f.samples = (emissions.filter (·.sample.name = f.name)).map (·.sample) ∧
        (∃ first, emissions.find? (·.sample.name = f.name) = some first ∧
          f.type = first.type ∧ f.help = first.help) ∧
        ∀ s ∈ f.samples, s.name = f.name ∧ (s.labels.map (·.1)).Nodup := by
  rw [Engine.result_collect] at h
  cases ht : Pass.trace e.settings .initial (Pass.readings registry e.pattern) with
  | error violation => simp [ht, Except.map] at h
  | ok emissions =>
    rw [ht] at h
    obtain rfl := Except.ok.inj h
    have hd := Pass.nodup_labelNames_of_trace ht
    refine ⟨emissions, rfl, rfl, FamilyMap.ascending_grouping emissions,
      FamilyMap.samples_grouping_perm emissions, ?_⟩
    intro f hf
    obtain ⟨-, hs, first, hfirst, hty, hhelp⟩ :=
      FamilyMap.group?_eq_some_iff.mp (FamilyMap.mem_grouping hf)
    have hm : first ∈ emissions.filter (·.sample.name = f.name) := by
      have hn := List.find?_some hfirst
      exact List.mem_filter.mpr ⟨List.mem_of_find?_eq_some hfirst, hn⟩
    refine ⟨?_, hs, ⟨first, hfirst, hty, hhelp⟩, ?_⟩
    · rw [hs]
      exact List.ne_nil_of_mem (List.mem_map_of_mem hm)
    · intro s hsm
      rw [hs] at hsm
      obtain ⟨e, he, rfl⟩ := List.mem_map.mp hsm
      obtain ⟨hem, hen⟩ := List.mem_filter.mp he
      exact ⟨of_decide_eq_true hen, hd e hem⟩

def Snapshot.interleaved : Snapshot where
  objects :=
    [(SnapshotObject.named ⟨"io.crate.monitoring", [("type", "Connections")]⟩).withAttribute
      ⟨"HttpOpen", "long", "", true⟩ (.number .one),
     (SnapshotObject.named ⟨"io.crate.monitoring", [("type", "Cluster")]⟩).withAttribute
      ⟨"NodeCount", "int", "", true⟩ (.number .one),
     (SnapshotObject.named ⟨"io.crate.monitoring", [("type", "Connections"), ("id", "2")]⟩).withAttribute
      ⟨"PsqlOpen", "long", "", true⟩ (.number .zero)]
  unavailable := none

def Family.interleaved : List Family :=
  [.single "crate_cluster_node_count" .untyped " (io.crate.monitoring<type=Cluster>NodeCount)" .one,
   ⟨"crate_connections", .gauge,
      "Number of connections and transferred messages and bytes per protocol",
      [⟨"crate_connections", [("protocol", "http"), ("property", "open")], .one⟩,
       ⟨"crate_connections", [("protocol", "psql"), ("property", "open")], .zero⟩]⟩]

theorem Engine.grouping_of_collect_interleaved :
    ((create .default (.since .zero)).collect Snapshot.interleaved.registry 0).2 =
        .ok Family.interleaved ∧
      ∃ emissions, Family.interleaved = FamilyMap.grouping emissions := by
  have hr : ((create .default (.since .zero)).collect Snapshot.interleaved.registry 0).2 =
      .ok Family.interleaved := by decide +kernel
  obtain ⟨emissions, -, hg, -⟩ := grouping_of_collect hr
  exact ⟨hr, emissions, hg⟩

end BeanMetrics
