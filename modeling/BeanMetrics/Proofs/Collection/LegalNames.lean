import BeanMetrics.Proofs.Collection.Listing
import BeanMetrics.Proofs.Collection.Names
import BeanMetrics.Proofs.Metric.Legal
import BeanMetrics.Proofs.ObjectName.Written

/-!
Which names of families are legal under a valid configuration. Those of the recorders' metrics are, as the
namespace is, and so is the name of a number without recorder if the namespace comes first in it. But only
the source domain is replaced by the namespace: what an object's domain begins with otherwise stays in
front, and if that is a digit the name is not legal. With a plain domain this cannot happen.
-/

namespace BeanMetrics

theorem Config.isNamespace_eq_isLegal (name : String) :
    isNamespace name = MetricName.isLegal name := by
  unfold isNamespace MetricName.isLegal
  cases name.toList with
  | nil => rfl
  | cons c rest =>
    have hstart : (isLetter c || c = '_' || c = ':') = MetricName.isNameStart c := by
      simp only [isLetter, MetricName.isNameStart]
      grind
    have hchar : (fun c => isLetter c || isDigit c || c = '_' || c = ':') = MetricName.isNameChar := by
      funext c
      simp only [isLetter, isDigit, MetricName.isNameChar]
      grind
    dsimp only
    rw [hstart, hchar]

theorem Recorder.IsName.isLegal {ns name : String} (hn : MetricName.isLegal ns = true)
    (h : IsName ns name) : MetricName.isLegal name = true := by
  obtain ⟨recorder, m, hm, rfl⟩ := isName_iff.mp h
  rw [RecorderMetric.name, String.append_assoc]
  exact MetricName.isLegal_append hn (isNameChar_suffix m hm)

namespace Pass

variable {s : Settings} {object : ObjectName}

/-- Whether a digit stays in front of the domain of an object: it begins with one, and not with the
source domain. -/
def keepsDigit (s : Settings) (object : ObjectName) : Bool :=
  MetricName.startsWithDigit object.domain &&
    !s.sourceDomain.toList.isPrefixOf object.domain.toList

theorem head?_metricDomain (hs : s.sourceDomain ≠ "") (hn : s.namespaceName ≠ "") :
    (metricDomain s object).toList.head? =
      if s.sourceDomain.toList.isPrefixOf object.domain.toList then s.namespaceName.toList.head?
      else object.domain.toList.head? := by
  rw [metricDomain, String.toList_ofList]
  exact Text.head?_replaceAll (by simpa using hs) (by simpa using hn) _

theorem startsWithDigit_metricDomain (hs : s.sourceDomain ≠ "")
    (hn : MetricName.isLegal s.namespaceName = true) :
    MetricName.startsWithDigit (metricDomain s object) = keepsDigit s object := by
  obtain ⟨hne, -, hdigit⟩ := MetricName.isLegal_iff.mp hn
  unfold MetricName.startsWithDigit at hdigit
  rw [MetricName.startsWithDigit, head?_metricDomain hs hne, keepsDigit, MetricName.startsWithDigit]
  split
  · rw [hdigit]
    simp [*]
  · simp [*]

theorem metricDomain_ne_empty (hs : s.sourceDomain ≠ "") (hn : s.namespaceName ≠ "")
    (hd : object.domain ≠ "") : metricDomain s object ≠ "" := by
  intro he
  have hh := @head?_metricDomain s object hs hn
  rw [he] at hh
  split at hh
  · exact hn (by simpa using hh.symm)
  · exact hd (by simpa using hh.symm)

theorem isLegal_fallbackName (hs : s.sourceDomain ≠ "")
    (hn : MetricName.isLegal s.namespaceName = true) (hd : object.domain ≠ "")
    (d : AttributeDescriptor) :
    MetricName.isLegal (fallbackName s object d) = !keepsDigit s object := by
  have hne := metricDomain_ne_empty hs (MetricName.isLegal_iff.mp hn).1 hd
  have hjoined : MetricName.joinComponents [metricDomain s object, object.kind, d.name] ≠ "" := by
    rw [MetricName.joinComponents_cons hne]
    split
    · exact hne
    · simp [hne]
  rw [fallbackName, MetricName.isLegal_snake hjoined, MetricName.startsWithDigit_joinComponents hne,
    startsWithDigit_metricDomain hs hn]

/-- An emission has a legal name unless it is that of a number in whose name a digit stays in front. -/
theorem isLegal_name_of_trace {r : Recorders} {xs : List Reading} {emissions : List Emission}
    (ht : trace s r xs = .ok emissions) (hs : s.sourceDomain ≠ "")
    (hn : MetricName.isLegal s.namespaceName = true) (hd : ∀ x ∈ xs, x.object.domain ≠ "")
    {name : String} (hm : name ∈ FamilyMap.namesOf emissions) :
    MetricName.isLegal name = false ↔ ∃ x ∈ xs, keepsDigit s x.object = true ∧
      ∃ emission, x.fallbackEmission? s = some emission ∧ emission.sample.name = name := by
  have hfallback {x : Reading} (hx : x ∈ xs) {emission : Emission}
      (he : x.fallbackEmission? s = some emission) :
      MetricName.isLegal emission.sample.name = !keepsDigit s x.object := by
    rw [Reading.name_of_fallbackEmission? he]
    exact isLegal_fallbackName hs hn (hd x hx) x.descriptor
  obtain ⟨emission, hem, rfl⟩ := FamilyMap.mem_namesOf.mp hm
  constructor
  · intro hillegal
    rcases isName_or_fallback_of_trace ht hem with hname | ⟨x, hx, he⟩
    · rw [hname.isLegal hn] at hillegal
      cases hillegal
    · refine ⟨x, hx, ?_, emission, he, rfl⟩
      simpa [hfallback hx he] using hillegal
  · rintro ⟨x, hx, hdigit, other, he, hsame⟩
    rw [← hsame, hfallback hx he, hdigit]
    rfl

theorem isLegalLabel_of_trace {r : Recorders} {xs : List Reading} {emissions : List Emission}
    (ht : trace s r xs = .ok emissions) :
    ∀ e ∈ emissions, ∀ label ∈ e.sample.labels, MetricName.isLegalLabel label.1 = true := by
  have hall : ∀ names ∈ ["id", "name"] :: Quantity.labelNameLists, ∀ name ∈ names,
      MetricName.isLegalLabel name = true := by decide
  exact fun e he label hl => hall _ (labelNames_of_trace ht e he) _ (List.mem_map_of_mem hl)

end Pass

/-- The labels of a pass have legal names. A family has one unless it is that of a number without recorder
in whose name a digit stays in front; so all have if the objects of a pass match a plain domain. -/
theorem Engine.isLegal_name_iff {c : Config} (hc : c.validate = .ok ()) {e : Engine} {t : Telemetry}
    (ha : e.Alike (create c.settings t)) {registry : Registry} {nanos : Nat} {families : List Family}
    (ho : ∀ object ∈ Pass.objects registry e.pattern, ∃ text, ObjectName.ofText? text = some object)
    (h : (e.collect registry nanos).2 = .ok families) :
    (∀ f ∈ families, ∀ s ∈ f.samples, ∀ label ∈ s.labels,
      MetricName.isLegalLabel label.1 = true) ∧
    (∀ name ∈ families.map (·.name), MetricName.isLegal name = false ↔
      ∃ x ∈ Pass.readings registry e.pattern, Pass.keepsDigit c.settings x.object = true ∧
        ∃ emission, x.fallbackEmission? c.settings = some emission ∧ emission.sample.name = name) ∧
    (c.hasPlainDomain = true →
      (∀ pattern, e.pattern = some pattern → ∀ object ∈ Pass.objects registry e.pattern,
        pattern.accepts object = true) →
      ∀ name ∈ families.map (·.name), MetricName.isLegal name = true) := by
  obtain ⟨emissions, ht, rfl⟩ := trace_of_collect h
  rw [ha.settings] at ht
  have ht : Pass.trace c.settings .initial (Pass.readings registry e.pattern) = .ok emissions := ht
  have hvalid := Config.Valid.of_validate hc
  obtain ⟨pattern, hpattern⟩ := hvalid.pattern
  have hn : MetricName.isLegal c.settings.namespaceName = true := by
    rw [← Config.isNamespace_eq_isLegal]
    exact hvalid.namespaceName
  have hd : ∀ x ∈ Pass.readings registry e.pattern, x.object.domain ≠ "" := by
    intro x hx
    obtain ⟨text, hname⟩ := ho x.object (Pass.object_mem_objects hx)
    exact (ObjectName.ofText?_eq_some_iff.mp hname).1.ne_empty
  have hnames : ∀ name ∈ (FamilyMap.grouping emissions).map (·.name), _ := fun name hm =>
    Pass.isLegal_name_of_trace ht (Config.domain_ne_empty hc) hn hd
      (FamilyMap.map_name_grouping emissions ▸ hm)
  refine ⟨fun f hf s hs label hl => ?_, hnames, fun hp haccepts name hm => ?_⟩
  · obtain ⟨emission, hem, rfl, -⟩ := FamilyMap.exists_emission hf hs
    exact Pass.isLegalLabel_of_trace ht emission hem label hl
  · by_contra hillegal
    obtain ⟨x, hx, hdigit, -⟩ := (hnames name hm).mp (by simpa using hillegal)
    -- the domain is the source domain, which is replaced
    have hdomain := Config.domain_of_accepts hp hpattern
      (haccepts pattern (ha.pattern.trans hpattern) x.object (Pass.object_mem_objects hx))
    have hprefix : c.exporter.domain.toList.isPrefixOf c.exporter.domain.toList = true :=
      List.isPrefixOf_iff_prefix.mpr (List.prefix_refl _)
    simp [Pass.keepsDigit, hdomain, Config.settings, hprefix] at hdigit

theorem Engine.isLegal_name_iff_interleaved :
    let e := create Config.default.settings (.since .zero)
    Config.default.validate = .ok () ∧ Config.default.hasPlainDomain = true ∧
      (e.collect Snapshot.interleaved.registry 0).2 = .ok Family.interleaved ∧
      ∀ name ∈ Family.interleaved.map (·.name), MetricName.isLegal name = true := by
  intro e
  have hc : Config.default.validate = .ok () := by decide +kernel
  have hp : Config.default.hasPlainDomain = true := by decide
  have hr : (e.collect Snapshot.interleaved.registry 0).2 = .ok Family.interleaved := by
    decide +kernel
  have hobjects : ∀ object ∈ Pass.objects Snapshot.interleaved.registry e.pattern,
      ObjectName.ofText? object.text = some object ∧
        e.pattern.all (·.accepts object) = true := by decide +kernel
  obtain ⟨-, -, hplain⟩ := isLegal_name_iff hc (.refl e) (fun object hm => ⟨_, (hobjects object hm).1⟩) hr
  refine ⟨hc, hp, hr, hplain hp fun pattern hpattern object hm => ?_⟩
  simpa [hpattern] using (hobjects object hm).2

def Snapshot.thirdParty : Snapshot where
  objects :=
    [(SnapshotObject.named ⟨"3rdparty.monitoring", [("type", "Cache")]⟩).withAttribute
      ⟨"Size", "long", "", true⟩ (.number .one)]
  unavailable := none

/-- A valid configuration under which a digit comes first in the name of a family. -/
theorem Engine.isLegal_name_ne_thirdParty :
    let config : Config := ⟨.default, .default, ⟨"*.monitoring", "*", "crate"⟩⟩
    let e := create config.settings (.since .zero)
    config.validate = .ok () ∧
      (∀ object ∈ Pass.objects Snapshot.thirdParty.registry e.pattern,
        ObjectName.ofText? object.text = some object) ∧
      (e.collect Snapshot.thirdParty.registry 0).2 =
        .ok [⟨"3rdparty_monitoring_cache_size", .untyped, " (3rdparty.monitoring<type=Cache>Size)",
          [.unlabeled "3rdparty_monitoring_cache_size" .one]⟩] ∧
      MetricName.isLegal "3rdparty_monitoring_cache_size" = false := by
  intro config e
  refine ⟨by decide +kernel, by decide +kernel, by decide +kernel, by decide⟩

end BeanMetrics
