import BeanMetrics.Proofs.Collection.Fallback
import BeanMetrics.Proofs.Exposition.Lossless

/-!
The names of families. Under a valid namespace all names are made of the characters of names, so the
families of a pass can be written down. The metrics about the passes have names of their own, which no
recorder's metric has under any namespace, but which a number without recorder may be given.
-/

namespace BeanMetrics

def Telemetry.names : List String :=
  ["jmx_exporter_attribute_errors_total", "jmx_exporter_build_info", "jmx_exporter_objects_scraped",
   "jmx_exporter_scrape_duration_seconds", "jmx_exporter_scrapes_total",
   "jmx_exporter_values_dropped_total", "process_start_time_seconds"]

namespace Telemetry

theorem map_name_families (t : Telemetry) : t.families.map (·.name) = names := rfl

theorem nodup_names : names.Nodup := by decide

theorem isNameChar_names : ∀ name ∈ names, name.toList.all MetricName.isNameChar = true := by
  decide

theorem exposable_families (t : Telemetry) : ∀ f ∈ t.families, Exposition.Exposable f := by
  have hs : ∀ f ∈ t.families, ∀ s ∈ f.samples,
      s.name = f.name ∧ ∀ label ∈ s.labels, label.1 = "version" := by
    simp [families, Family.single, Sample.unlabeled, Sample.withLabel, Sample.setLabel]
  intro f hf
  refine ⟨?_, fun s hsm => (hs f hf s hsm).1, fun s hsm label hl => ?_⟩
  · have hm : f.name ∈ names := map_name_families t ▸ List.mem_map_of_mem hf
    exact List.all_eq_true.mp (isNameChar_names f.name hm)
  · have hversion : "version".toList.all Exposition.isLabelChar = true := by decide
    rw [(hs f hf s hsm).2 label hl]
    exact List.all_eq_true.mp hversion

end Telemetry

theorem Recorder.IsName.notMem_names {ns name : String} (h : IsName ns name) :
    name ∉ Telemetry.names := by
  obtain ⟨recorder, m, hm, rfl⟩ := isName_iff.mp h
  have hends : ∀ n ∈ Telemetry.names, ∀ m ∈ recorder.metrics,
      ¬ ("_" ++ m.suffix).toList <:+ n.toList := by
    cases recorder <;> decide
  intro hn
  refine hends _ hn m hm ⟨ns.toList, ?_⟩
  simp [RecorderMetric.name]

namespace Pass

variable {s : Settings} {r : Recorders} {xs : List Reading} {emissions : List Emission}

theorem isName_or_fallback_of_trace (h : trace s r xs = .ok emissions) {e : Emission} :
    e ∈ emissions → Recorder.IsName s.namespaceName e.sample.name ∨
      ∃ x ∈ xs, x.fallbackEmission? s = some e := by
  obtain ⟨recorded, hr, hm⟩ := merged_trace h
  intro he
  rcases List.mem_append.mp (hm.perm.mem_iff.mp he) with hrec | hun
  · obtain ⟨recorder, hrec⟩ :=
      emits_of_trace (fun x hx => (List.mem_filter.mp hx).2) hr e hrec
    exact .inl ⟨recorder, e, hrec, rfl⟩
  · exact .inr (List.mem_filterMap.mp hun)

theorem mem_of_fallbackEmission? (h : trace s r xs = .ok emissions) {x : Reading} (hx : x ∈ xs)
    {e : Emission} (he : x.fallbackEmission? s = some e) : e ∈ emissions := by
  obtain ⟨recorded, -, hm⟩ := merged_trace h
  exact hm.perm.mem_iff.mpr (List.mem_append_right _ (List.mem_filterMap.mpr ⟨x, hx, he⟩))

end Pass

theorem Reading.name_of_fallbackEmission? {s : Settings} {x : Reading} {e : Emission}
    (h : x.fallbackEmission? s = some e) :
    e.sample.name = Pass.fallbackName s x.object x.descriptor := by
  unfold fallbackEmission? at h
  split at h
  · cases h
  · obtain ⟨n, -, rfl⟩ := Option.map_eq_some_iff.mp h
    rfl

/-- A name of the metrics about the passes is also one of a family exactly if a number without recorder
is given it. -/
theorem Engine.mem_names_iff {e : Engine} {registry : Registry} {nanos : Nat} {families : List Family}
    (h : (e.collect registry nanos).2 = .ok families) {name : String} (hn : name ∈ Telemetry.names) :
    name ∈ families.map (·.name) ↔
      ∃ x ∈ Pass.readings registry e.pattern, ∃ emission,
        x.fallbackEmission? e.settings = some emission ∧ emission.sample.name = name := by
  obtain ⟨emissions, ht, rfl⟩ := trace_of_collect h
  rw [FamilyMap.map_name_grouping, FamilyMap.mem_namesOf]
  constructor
  · rintro ⟨emission, he, rfl⟩
    rcases Pass.isName_or_fallback_of_trace ht he with hname | ⟨x, hx, ho⟩
    · exact absurd hn hname.notMem_names
    · exact ⟨x, hx, emission, ho, rfl⟩
  · rintro ⟨x, hx, emission, ho, rfl⟩
    exact ⟨emission, Pass.mem_of_fallbackEmission? ht hx ho, rfl⟩

/-! ### What can be written down -/

theorem FamilyMap.exists_emission {emissions : List Emission} {f : Family}
    (hf : f ∈ grouping emissions) {s : Sample} (hs : s ∈ f.samples) :
    ∃ e ∈ emissions, e.sample = s ∧ e.sample.name = f.name := by
  obtain ⟨-, hsamples, -⟩ := group?_eq_some_iff.mp (mem_grouping hf)
  rw [hsamples] at hs
  obtain ⟨e, he, rfl⟩ := List.mem_map.mp hs
  obtain ⟨hem, hen⟩ := List.mem_filter.mp he
  exact ⟨e, hem, rfl, of_decide_eq_true hen⟩

theorem Recorder.isNameChar_suffix {recorder : Recorder} :
    ∀ m ∈ recorder.metrics, ∀ c ∈ ("_" ++ m.suffix).toList, MetricName.isNameChar c = true := by
  have hall : ∀ m ∈ recorder.metrics,
      ("_" ++ m.suffix).toList.all MetricName.isNameChar = true := by
    cases recorder <;> decide
  exact fun m hm => List.all_eq_true.mp (hall m hm)

theorem Pass.isNameChar_of_trace {s : Settings} {r : Recorders} {xs : List Reading}
    {emissions : List Emission}
    (hn : ∀ c ∈ s.namespaceName.toList, MetricName.isNameChar c = true)
    (h : trace s r xs = .ok emissions) :
    ∀ e ∈ emissions, ∀ c ∈ e.sample.name.toList, MetricName.isNameChar c = true := by
  intro e he c hc
  rcases isName_or_fallback_of_trace h he with hname | ⟨x, -, ho⟩
  · obtain ⟨recorder, m, hm, hname⟩ := Recorder.isName_iff.mp hname
    rw [hname, RecorderMetric.name, String.append_assoc, String.toList_append] at hc
    rcases List.mem_append.mp hc with hc | hc
    · exact hn c hc
    · exact Recorder.isNameChar_suffix m hm c hc
  · rw [Reading.name_of_fallbackEmission? ho, fallbackName, MetricName.snake, String.toList_ofList] at hc
    exact (MetricName.snakeForm_snakeChars _).nameChars c hc

/-- Under a namespace that is a name, the families of a pass can be written down. -/
theorem Engine.exposable_of_collect {e : Engine} {registry : Registry} {nanos : Nat}
    {families : List Family}
    (hn : ∀ c ∈ e.settings.namespaceName.toList, MetricName.isNameChar c = true)
    (h : (e.collect registry nanos).2 = .ok families) :
    ∀ f ∈ families, Exposition.Exposable f := by
  obtain ⟨emissions, ht, rfl⟩ := trace_of_collect h
  intro f hf
  obtain ⟨emission, he, hname⟩ := FamilyMap.mem_namesOf.mp (FamilyMap.name_mem_namesOf hf)
  have hlabels : ∀ names ∈ ["id", "name"] :: Quantity.labelNameLists, ∀ name ∈ names,
      name.toList.all Exposition.isLabelChar = true := by
    decide
  refine ⟨?_, fun s hsm => ?_, fun s hsm label hl => ?_⟩
  · rw [← hname]
    exact Pass.isNameChar_of_trace hn ht emission he
  · obtain ⟨e, -, rfl, hen⟩ := FamilyMap.exists_emission hf hsm
    exact hen
  · obtain ⟨e, hem, rfl, -⟩ := FamilyMap.exists_emission hf hsm
    exact List.all_eq_true.mp
      (hlabels _ (Pass.labelNames_of_trace ht e hem) _ (List.mem_map_of_mem hl))

end BeanMetrics
