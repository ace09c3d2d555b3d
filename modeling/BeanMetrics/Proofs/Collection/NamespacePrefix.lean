import BeanMetrics.Proofs.Collection.Listing
import BeanMetrics.Proofs.Collection.Names

/-!
What the names of families begin with. The namespace stands in front of the metrics of recorders as it is
written. In front of a number without recorder it takes the place of the source domain and is then brought
into snake case with the rest of the name, so it stays as it is written exactly if it is in snake case
already.
-/

namespace BeanMetrics

namespace MetricName

/-- Whether a name begins with the namespace, as it is written, and `_`. -/
def Under (ns name : String) : Prop := (ns ++ "_").toList <+: name.toList

instance (ns name : String) : Decidable (Under ns name) :=
  inferInstanceAs (Decidable ((ns ++ "_").toList <+: name.toList))

theorem under_append (ns rest : String) : Under ns (ns ++ "_" ++ rest) :=
  ⟨rest.toList, by simp⟩

theorem under_iff {ns name : String} : Under ns name ↔ ∃ rest, name = ns ++ "_" ++ rest := by
  constructor
  · rintro ⟨rest, hr⟩
    refine ⟨String.ofList rest, ?_⟩
    rw [← String.toList_inj, ← hr]
    simp
  · rintro ⟨rest, rfl⟩
    exact under_append ns rest

/-- In front of a name in snake case, the namespace is as it was written if it is in snake case. -/
theorem under_snake_iff {ns rest : String} :
    Under ns (snake (ns ++ "_" ++ rest)) ↔ SnakeForm (ns ++ "_").toList := by
  rw [← snake_eq_self_iff]
  constructor
  · intro h
    obtain ⟨tail, ht⟩ := under_iff.mp h
    exact snake_eq_self_of_append ht
  · intro h
    have hp := prefix_snake (ns ++ "_") rest
    rwa [h] at hp

theorem not_under_snake (ns : String) : ¬ Under ns (snake ns) := by
  intro h
  obtain ⟨rest, hr⟩ := under_iff.mp h
  rw [String.append_assoc] at hr
  exact snake_ne_append (by simp) hr

end MetricName

theorem Recorder.IsName.under {ns name : String} (h : IsName ns name) : MetricName.Under ns name := by
  obtain ⟨recorder, m, -, rfl⟩ := isName_iff.mp h
  exact MetricName.under_append ns m.suffix

/-- Whether nothing is added to the domain in the name of a number without recorder. -/
def Reading.isBare (x : Reading) : Bool := x.object.kind = "" && x.descriptor.name = ""

theorem Reading.name_of_domain_eq {s : Settings} (hs : s.sourceDomain ≠ "") (hn : s.namespaceName ≠ "")
    {x : Reading} (hd : x.object.domain = s.sourceDomain) {e : Emission}
    (he : x.fallbackEmission? s = some e) :
    e.sample.name =
      if x.isBare then MetricName.snake s.namespaceName
      else MetricName.snake
        (s.namespaceName ++ "_" ++ MetricName.joinComponents [x.object.kind, x.descriptor.name]) := by
  have hall : [x.object.kind, x.descriptor.name].all (· = "") = x.isBare := by simp [isBare]
  rw [name_of_fallbackEmission? he, Pass.fallbackName, Pass.metricDomain_of_domain_eq hd hs,
    MetricName.joinComponents_cons hn, hall]
  split <;> rfl

/-- Where the namespace stands in the name of a number without recorder, and when it is as written. -/
theorem Reading.under_iff_of_domain_eq {s : Settings} (hs : s.sourceDomain ≠ "")
    (hn : s.namespaceName ≠ "") {x : Reading} (hd : x.object.domain = s.sourceDomain) {e : Emission}
    (he : x.fallbackEmission? s = some e) :
    (if x.isBare then e.sample.name = MetricName.snake s.namespaceName
      else (MetricName.snake (s.namespaceName ++ "_")).toList <+: e.sample.name.toList) ∧
    (MetricName.Under s.namespaceName e.sample.name ↔
      MetricName.SnakeForm (s.namespaceName ++ "_").toList ∧ x.isBare = false) := by
  rw [name_of_domain_eq hs hn hd he]
  cases x.isBare with
  | true => simp [MetricName.not_under_snake]
  | false =>
    refine ⟨MetricName.prefix_snake _ _, ?_⟩
    simp [MetricName.under_snake_iff]

/-- What the families of a pass begin with. The metrics of recorders begin with the namespace as it is
written; a number of the source domain that has no recorder begins with the namespace in snake case, if there
is anything behind it. So with a plain domain all begin with the namespace as it is written exactly if no
number has no recorder, or it is in snake case and something is behind it. -/
theorem Engine.under_namespace_iff {c : Config} (hc : c.validate = .ok ()) {e : Engine} {t : Telemetry}
    (ha : e.Alike (create c.settings t)) {registry : Registry} {nanos : Nat} {families : List Family}
    (h : (e.collect registry nanos).2 = .ok families) :
    let ns := c.exporter.namespaceName
    let xs := Pass.readings registry e.pattern
    (∀ name ∈ families.map (·.name), Recorder.IsName ns name ∧ MetricName.Under ns name ∨
      ∃ x ∈ xs, ∃ emission, x.fallbackEmission? c.settings = some emission ∧
        emission.sample.name = name) ∧
    (∀ x ∈ xs, x.object.domain = c.exporter.domain →
      ∀ emission, x.fallbackEmission? c.settings = some emission →
        emission.sample.name ∈ families.map (·.name) ∧
        (if x.isBare then emission.sample.name = MetricName.snake ns
          else (MetricName.snake (ns ++ "_")).toList <+: emission.sample.name.toList) ∧
        (MetricName.Under ns emission.sample.name ↔
          MetricName.SnakeForm (ns ++ "_").toList ∧ x.isBare = false)) ∧
    (c.hasPlainDomain = true →
      (∀ pattern, e.pattern = some pattern → ∀ object ∈ Pass.objects registry e.pattern,
        pattern.accepts object = true) →
      ((∀ name ∈ families.map (·.name), MetricName.Under ns name) ↔
        ∀ x ∈ xs, (x.fallbackEmission? c.settings).isSome →
          MetricName.SnakeForm (ns ++ "_").toList ∧ x.isBare = false)) := by
  intro ns xs
  obtain ⟨emissions, ht, rfl⟩ := trace_of_collect h
  rw [ha.settings] at ht
  have ht : Pass.trace c.settings .initial xs = .ok emissions := ht
  rw [FamilyMap.map_name_grouping]
  have hnames : ∀ name ∈ FamilyMap.namesOf emissions,
      Recorder.IsName ns name ∧ MetricName.Under ns name ∨
        ∃ x ∈ xs, ∃ emission, x.fallbackEmission? c.settings = some emission ∧
          emission.sample.name = name := by
    intro name hm
    obtain ⟨emission, hem, rfl⟩ := FamilyMap.mem_namesOf.mp hm
    rcases Pass.isName_or_fallback_of_trace ht hem with hname | ⟨x, hx, he⟩
    · exact .inl ⟨hname, hname.under⟩
    · exact .inr ⟨x, hx, emission, he, rfl⟩
  have hfallback {x : Reading} (hx : x ∈ xs) {emission : Emission}
      (he : x.fallbackEmission? c.settings = some emission) :
      emission.sample.name ∈ FamilyMap.namesOf emissions :=
    FamilyMap.mem_namesOf.mpr ⟨emission, Pass.mem_of_fallbackEmission? ht hx he, rfl⟩
  have hunder {x : Reading} (hd : x.object.domain = c.exporter.domain) {emission : Emission}
      (he : x.fallbackEmission? c.settings = some emission) :=
    Reading.under_iff_of_domain_eq (Config.domain_ne_empty hc) (Config.namespaceName_ne_empty hc) hd he
  refine ⟨hnames, fun x hx hd emission he => ⟨hfallback hx he, hunder hd he⟩, fun hp haccepts => ?_⟩
  have hdomain {x : Reading} (hx : x ∈ xs) : x.object.domain = c.exporter.domain := by
    obtain ⟨pattern, hpattern⟩ := (Config.Valid.of_validate hc).pattern
    exact Config.domain_of_accepts hp hpattern
      (haccepts pattern (ha.pattern.trans hpattern) x.object (Pass.object_mem_objects hx))
  constructor
  · intro hall x hx hsome
    obtain ⟨emission, he⟩ := Option.isSome_iff_exists.mp hsome
    exact (hunder (hdomain hx) he).2.mp (hall _ (hfallback hx he))
  · intro hall name hm
    rcases hnames name hm with ⟨-, hname⟩ | ⟨x, hx, emission, he, rfl⟩
    · exact hname
    · exact (hunder (hdomain hx) he).2.mpr (hall x hx (Option.isSome_iff_exists.mpr ⟨_, he⟩))

theorem Engine.under_namespace_iff_interleaved :
    let e := create Config.default.settings (.since .zero)
    Config.default.validate = .ok () ∧ Config.default.hasPlainDomain = true ∧
      (e.collect Snapshot.interleaved.registry 0).2 = .ok Family.interleaved ∧
      ∀ name ∈ Family.interleaved.map (·.name), MetricName.Under "crate" name := by
  intro e
  have hc : Config.default.validate = .ok () := by decide +kernel
  have hp : Config.default.hasPlainDomain = true := by decide
  have hr : (e.collect Snapshot.interleaved.registry 0).2 = .ok Family.interleaved := by
    decide +kernel
  have hobjects : ∀ object ∈ Pass.objects Snapshot.interleaved.registry e.pattern,
      e.pattern.all (·.accepts object) = true := by decide +kernel
  have hbare : ∀ x ∈ Pass.readings Snapshot.interleaved.registry e.pattern, x.isBare = false := by
    decide +kernel
  have hsnake : MetricName.SnakeForm "crate_".toList := MetricName.snake_eq_self_iff.mp (by decide)
  obtain ⟨-, -, hplain⟩ := under_namespace_iff hc (.refl e) hr
  refine ⟨hc, hp, hr, (hplain hp fun pattern hpattern object hm => ?_).mpr fun x hx _ =>
    ⟨hsnake, hbare x hx⟩⟩
  simpa [hpattern] using hobjects object hm

def Snapshot.single (object : ObjectName) (attr : String) : Snapshot where
  objects := [(SnapshotObject.named object).withAttribute ⟨attr, "long", "", true⟩ (.number .one)]
  unavailable := none

def Engine.firstNames? (c : Config) (snapshot : Snapshot) : Option (List String) :=
  match ((create c.settings (.since .zero)).collect snapshot.registry 0).2 with
  | .ok families => some (families.map (·.name))
  | .error _ => none

/-- Three valid configurations in which a family does not begin with the namespace as it is written: it has a
capital, or the source domain is not that of the object, or nothing comes behind the domain. -/
theorem Engine.not_under_namespace_single :
    let cluster : ObjectName := ⟨"io.crate.monitoring", [("type", "Cluster")]⟩
    let nameless : ObjectName := ⟨"io.crate.monitoring", [("type", "")]⟩
    let capital : Config := ⟨.default, .default, ⟨"io.crate.monitoring", "*", "Crate"⟩⟩
    let wildcard : Config := ⟨.default, .default, ⟨"io.crate.*", "*", "crate"⟩⟩
    (capital.validate = .ok () ∧
      firstNames? capital (.single cluster "NodeCount") = some ["crate_cluster_node_count"] ∧
      ¬ MetricName.Under "Crate" "crate_cluster_node_count") ∧
    (wildcard.validate = .ok () ∧
      firstNames? wildcard (.single cluster "NodeCount") =
        some ["io_crate_monitoring_cluster_node_count"] ∧
      ¬ MetricName.Under "crate" "io_crate_monitoring_cluster_node_count") ∧
    (Config.default.validate = .ok () ∧
      ObjectName.ofText? nameless.text = some nameless ∧
      firstNames? .default (.single nameless "") = some ["crate"] ∧
      ¬ MetricName.Under "crate" "crate") := by
  intro cluster nameless capital wildcard
  refine ⟨⟨by decide +kernel, by decide +kernel, by decide⟩,
    ⟨by decide +kernel, by decide +kernel, by decide⟩,
    by decide +kernel, by decide +kernel, by decide +kernel, by decide⟩

end BeanMetrics
