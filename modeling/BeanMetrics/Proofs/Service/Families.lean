import BeanMetrics.Proofs.Collection.NamespacePrefix
import BeanMetrics.Proofs.Exposition.TypeLines
import BeanMetrics.Proofs.Service.Readiness

/-!
The families in an answer. Those of the pass are followed by those about the passes, each with names of
their own; but a number without recorder may be given one of the second ones, and then there are two
families of this name and two lines that give its type. It cannot if the domain is plain and the
namespace begins in another way than the names about the passes.
-/

namespace BeanMetrics

theorem count_append_of_nodup {as bs : List String} (ha : as.Nodup) (hb : bs.Nodup) (name : String) :
    (as ++ bs).count name ≤ 2 ∧ ((as ++ bs).count name = 2 ↔ name ∈ as ∧ name ∈ bs) := by
  have hcount {l : List String} (hl : l.Nodup) : l.count name = if name ∈ l then 1 else 0 := by
    split
    · exact List.count_eq_one_of_mem hl ‹_›
    · exact List.count_eq_zero_of_not_mem ‹_›
  rw [List.count_append, hcount ha, hcount hb]
  split_ifs <;> simp [*]

namespace Service

variable {s after : Service} {c : Config} {t : Telemetry} {nanos : Nat} {families : List Family}

def exposed (after : Service) (families : List Family) : List Family :=
  families ++ after.engine.telemetry.families

theorem metrics_of_ok (query : Option String) (h : s.scrape nanos = (after, .ok families)) :
    (s.metrics query nanos).2 = ⟨200, some Exposition.contentType,
      Exposition.text (Exposition.select (Query.requestedNames query) (after.exposed families))⟩ := by
  rw [metrics, h]
  rfl

theorem collect_of_scrape (h : s.scrape nanos = (after, .ok families)) :
    (s.engine.collect s.observed nanos).2 = .ok families := by
  rw [← result_scrape, h]

theorem exposable_exposed (hc : c.validate = .ok ()) (hs : s.engine.Alike (.create c.settings t))
    (h : s.scrape nanos = (after, .ok families)) :
    ∀ f ∈ after.exposed families, Exposition.Exposable f := by
  have hn : ∀ d ∈ s.engine.settings.namespaceName.toList, MetricName.isNameChar d = true := by
    rw [hs.settings]
    exact Config.isNameChar_of_validate hc
  intro f hf
  rcases List.mem_append.mp hf with hm | hm
  · exact Engine.exposable_of_collect hn (collect_of_scrape h) f hm
  · exact Telemetry.exposable_families _ f hm

/-- Each family that is asked for gives its type in a line of its own. -/
theorem typeLineCount_metrics (hc : c.validate = .ok ())
    (hs : s.engine.Alike (.create c.settings t)) (query : Option String)
    (h : s.scrape nanos = (after, .ok families)) (name : String) :
    Exposition.typeLineCount name (s.metrics query nanos).2.body =
      if Exposition.includes (Query.requestedNames query) name then
        ((after.exposed families).map (·.name)).count name
      else 0 := by
  have hselected : ∀ f ∈ Exposition.select (Query.requestedNames query) (after.exposed families),
      Exposition.Exposable f := fun f hf =>
    exposable_exposed hc hs h f (List.mem_of_mem_filter hf)
  rw [metrics_of_ok query h, Exposition.typeLineCount_text hselected, Exposition.countP_select]

/-! ### Names -/

theorem map_name_exposed (after : Service) (families : List Family) :
    (after.exposed families).map (·.name) = families.map (·.name) ++ Telemetry.names := by
  rw [exposed, List.map_append, Telemetry.map_name_families]

theorem nodup_names_of_scrape (h : s.scrape nanos = (after, .ok families)) :
    (families.map (·.name)).Nodup := by
  obtain ⟨emissions, -, rfl⟩ := Engine.trace_of_collect (collect_of_scrape h)
  rw [FamilyMap.map_name_grouping]
  exact FamilyMap.nodup_namesOf emissions

theorem accepts_of_mem_readings {x : Reading} (hx : x ∈ Pass.readings s.observed s.engine.pattern) :
    ∃ pattern, s.engine.pattern = some pattern ∧ pattern.accepts x.object = true := by
  have ho := Pass.object_mem_objects hx
  unfold observed at ho
  cases hp : s.engine.pattern with
  | none =>
    rw [hp] at ho
    cases ho
  | some pattern =>
    rw [hp] at ho
    dsimp only at ho
    rw [Pass.objects_snapshot] at ho
    split at ho
    · rename_i found _ hf _
      obtain rfl := Option.some.inj hf
      exact ⟨pattern, rfl, (List.mem_filter.mp ho).2⟩
    · cases ho

/-- With a plain domain, the name of a number without recorder begins with the namespace. -/
theorem namespace_of_fallback (hc : c.validate = .ok ()) (hp : c.hasPlainDomain = true)
    (hs : s.engine.Alike (.create c.settings t)) {x : Reading}
    (hx : x ∈ Pass.readings s.observed s.engine.pattern) {e : Emission}
    (he : x.fallbackEmission? c.settings = some e) :
    e.sample.name = MetricName.snake c.exporter.namespaceName ∨
      (MetricName.snake (c.exporter.namespaceName ++ "_")).toList <+: e.sample.name.toList := by
  obtain ⟨pattern, hpattern, ha⟩ := accepts_of_mem_readings hx
  have hd := Config.domain_of_accepts hp (hs.pattern.symm.trans hpattern) ha
  obtain ⟨hname, -⟩ := Reading.under_iff_of_domain_eq (Config.domain_ne_empty hc)
    (Config.namespaceName_ne_empty hc) hd he
  split at hname
  · exact .inl hname
  · exact .inr hname

/-- The families in an answer. A name is among them at most twice, and twice exactly if it is one of
those about the passes and is given to a number without recorder; each family that is asked for gives
its type in a line of its own. If the domain is plain and no name about the passes begins with the
namespace, no two families have the same name. -/
theorem count_exposed (hc : c.validate = .ok ()) (hs : s.engine.Alike (.create c.settings t))
    (query : Option String) (h : s.scrape nanos = (after, .ok families)) :
    let names := (after.exposed families).map (·.name)
    let ns := c.exporter.namespaceName
    (∀ name, Exposition.typeLineCount name (s.metrics query nanos).2.body =
      if Exposition.includes (Query.requestedNames query) name then names.count name else 0) ∧
    (∀ name, names.count name ≤ 2) ∧
    (∀ name, names.count name = 2 ↔ name ∈ Telemetry.names ∧
      ∃ x ∈ Pass.readings s.observed s.engine.pattern, ∃ e,
        x.fallbackEmission? c.settings = some e ∧ e.sample.name = name) ∧
    (c.hasPlainDomain = true →
      (∀ name ∈ Telemetry.names, MetricName.snake ns ≠ name ∧
        ¬ (MetricName.snake (ns ++ "_")).toList <+: name.toList) → names.Nodup) := by
  intro names ns
  have hok := collect_of_scrape h
  have hnames : names = families.map (·.name) ++ Telemetry.names := map_name_exposed after families
  have hcount := count_append_of_nodup (nodup_names_of_scrape h) Telemetry.nodup_names
  have htwice (name : String) : names.count name = 2 ↔ name ∈ Telemetry.names ∧
      ∃ x ∈ Pass.readings s.observed s.engine.pattern, ∃ e,
        x.fallbackEmission? c.settings = some e ∧ e.sample.name = name := by
    rw [hnames, (hcount name).2, and_comm]
    refine and_congr_right fun hn => ?_
    rw [Engine.mem_names_iff hok hn, hs.settings]
    rfl
  have hle (name : String) : names.count name ≤ 2 := hnames ▸ (hcount name).1
  refine ⟨typeLineCount_metrics hc hs query h, hle, htwice, fun hp hn => ?_⟩
  refine List.nodup_iff_count_le_one.mpr fun name => ?_
  by_contra hgt
  have htwo : names.count name = 2 := Nat.le_antisymm (hle name) (by omega)
  obtain ⟨hname, x, hx, e, he, rfl⟩ := (htwice name).mp htwo
  rcases namespace_of_fallback hc hp hs hx he with hsnake | hprefix
  · exact (hn _ hname).1 hsnake.symm
  · exact (hn _ hname).2 hprefix

theorem count_exposed_interleaved :
    let c := Config.default
    let s := create c (.fixed Snapshot.interleaved) .zero
    let names := ((s.scrape 0).1.exposed Family.interleaved).map (·.name)
    c.validate = .ok () ∧ c.hasPlainDomain = true ∧ (s.scrape 0).2 = .ok Family.interleaved ∧
      names.Nodup ∧ Exposition.typeLineCount "crate_connections" (s.metrics none 0).2.body = 1 := by
  intro c s names
  have hc : c.validate = .ok () := by decide +kernel
  have hp : c.hasPlainDomain = true := by decide
  have hr : (s.scrape 0).2 = .ok Family.interleaved := by decide +kernel
  obtain ⟨htype, -, -, hnodup⟩ :=
    count_exposed hc (Engine.Alike.refl (.create c.settings (.since .zero))) none (Prod.ext rfl hr)
  exact ⟨hc, hp, hr, hnodup hp (by decide +kernel), (htype "crate_connections").trans (by decide +kernel)⟩

/-- A valid configuration whose namespace is what the names about the passes begin with. -/
def underExporter : Config :=
  { Config.default with exporter := { ExporterConfig.default with namespaceName := "jmx_exporter" } }

def build : Snapshot where
  objects :=
    [(SnapshotObject.named ⟨"io.crate.monitoring", [("type", "Build")]⟩).withAttribute
      ⟨"Info", "int", "", true⟩ (.number (.ofNat 5))]
  unavailable := none

def buildFamilies : List Family :=
  [.single "jmx_exporter_build_info" .untyped " (io.crate.monitoring<type=Build>Info)" (.ofNat 5)]

/-- Two families in one answer have the same name, and its type is given twice. -/
theorem two_families_build :
    let s := create underExporter (.fixed build) .zero
    underExporter.validate = .ok () ∧ (s.scrape 0).2 = .ok buildFamilies ∧
      ¬ (((s.scrape 0).1.exposed buildFamilies).map (·.name)).Nodup ∧
      Exposition.typeLineCount "jmx_exporter_build_info" (s.metrics none 0).2.body = 2 := by
  intro s
  have hc : underExporter.validate = .ok () := by decide +kernel
  have hr : s.scrape 0 = ((s.scrape 0).1, .ok buildFamilies) := by
    refine Prod.ext rfl ?_
    decide +kernel
  have hnames := map_name_exposed (s.scrape 0).1 buildFamilies
  refine ⟨hc, congrArg Prod.snd hr, ?_, ?_⟩
  · rw [hnames]
    decide
  · have ha : s.engine.Alike (.create underExporter.settings (.since .zero)) := .refl _
    rw [typeLineCount_metrics hc ha none hr, hnames]
    decide

end Service
end BeanMetrics
